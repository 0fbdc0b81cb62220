import Mathlib.Data.String.Basic
import Rendezvous.Deadline
import Rendezvous.Proofs.CorrelationId
import Rendezvous.Proofs.Text.DigitOrder

/-!
# The spellings of correlation ids

An id has 32 hexadecimal digits, each of which may be written in either case, and they may stand in
four layouts. A text is read as an id exactly if it is one of the spellings of that id with blanks
around it (`CorrelationId.parseExact?_eq_some_iff`). Ids are ordered as the texts that are printed
of them (`CorrelationId.lt_iff_text_lt`): the hyphens stand at the same places in all of them.
-/

namespace Rendezvous

namespace CorrelationId

/-- A text has five groups of 8, 4, 4, 4 and 12 of the digits, with hyphens between them. -/
def Grouped (digits text : List Char) : Prop :=
  ∃ first second third fourth fifth : List Char,
    digits = first ++ second ++ third ++ fourth ++ fifth ∧
      text = first ++ '-' :: second ++ '-' :: third ++ '-' :: fourth ++ '-' :: fifth ∧
        first.length = 8 ∧ second.length = 4 ∧ third.length = 4 ∧ fourth.length = 4 ∧
          fifth.length = 12

/-- The layouts in which digits may stand. -/
inductive Layout (digits : List Char) : List Char → Prop
  | plain : Layout digits digits
  | grouped {text : List Char} (groups : Grouped digits text) : Layout digits text
  | braced {text : List Char} (groups : Grouped digits text) :
      Layout digits ('\x7b' :: text ++ ['\x7d'])
  | urn {text : List Char} (groups : Grouped digits text) :
      Layout digits ("urn:uuid:".toList ++ text)

/-- A text spells an id: the digits of the id, in any mix of letter cases, stand in one of the
layouts. -/
def Spells (text : List Char) (id : CorrelationId) : Prop :=
  ∃ digits : List Char, digits.map Char.toLower = id.digits ∧ Layout digits text

variable {id : CorrelationId} {digits text : List Char}

/-! ## Digits -/

theorem allSmall_digits (id : CorrelationId) : Text.AllSmall 16 id.digits :=
  forall_digits (fun digit small => ⟨digit, small, rfl⟩) id

theorem ofDigits_digits (id : CorrelationId) : Text.ofDigits 16 id.digits = id.bits.toNat :=
  Text.ofDigits_showPadded (by decide) (by decide) 32 _

theorem allSmall_map_toLower :
    Text.AllSmall 16 (digits.map Char.toLower) ↔
      ∀ character ∈ digits, Text.isDigitIn 16 character = true := by
  simp only [Text.AllSmall, List.forall_mem_map, Text.isDigitIn, Option.isSome_iff_exists]
  constructor
  · intro small character member
    rcases small character member with ⟨digit, bound, lower⟩
    exact ⟨digit, (Text.toLower_eq_digitChar_iff bound).mp lower⟩
  · intro hexadecimal character member
    rcases hexadecimal character member with ⟨digit, value⟩
    have bound : digit < 16 := by simpa using (Option.filter_eq_some_iff.mp value).2
    exact ⟨digit, bound, (Text.toLower_eq_digitChar_iff bound).mpr value⟩

/-- The number that digits denote does not depend on their case. -/
theorem ofDigits_map_toLower
    (hexadecimal : ∀ character ∈ digits, Text.isDigitIn 16 character = true) :
    Text.ofDigits 16 (digits.map Char.toLower) = Text.ofDigits 16 digits := by
  have value : ∀ character ∈ digits,
      Text.digitIn 16 character.toLower = Text.digitIn 16 character := by
    intro character member
    have small := allSmall_map_toLower.mpr hexadecimal
    rcases small _ (List.mem_map_of_mem member) with ⟨digit, bound, lower⟩
    rw [lower, Text.digitIn_digitChar (by decide) bound]
    exact ((Text.toLower_eq_digitChar_iff bound).mp lower).symm
  rw [Text.ofDigits, Text.ofDigits, List.foldl_map]
  apply List.foldl_ext
  intro number character member
  rw [value character member]

/-- Digits are read as an id exactly if they are its digits but for the case. -/
theorem ofDigits?_eq_some_iff :
    ofDigits? digits = some id ↔ digits.map Char.toLower = id.digits := by
  constructor
  · intro read
    rw [ofDigits?] at read
    split at read
    · rename_i plain
      rcases plain with ⟨length, hexadecimal⟩
      rw [List.all_eq_true] at hexadecimal
      cases read
      have lengths : (digits.map Char.toLower).length = 32 := by
        rw [List.length_map, length]
      have small : Text.ofDigits 16 digits < 2 ^ 128 := by
        have bound := Text.ofDigits_lt (by decide : 0 < 16) digits
        rwa [length] at bound
      apply Text.eq_of_ofDigits_eq (by decide) (by decide)
        (allSmall_map_toLower.mpr hexadecimal) (allSmall_digits _)
      · rw [lengths, length_digits]
      · rw [ofDigits_map_toLower hexadecimal, ofDigits_digits, BitVec.toNat_ofNat,
          Nat.mod_eq_of_lt small]
    · cases read
  · intro lower
    have hexadecimal : ∀ character ∈ digits, Text.isDigitIn 16 character = true :=
      allSmall_map_toLower.mp (lower ▸ id.allSmall_digits)
    have length : digits.length = 32 := by
      rw [← id.length_digits, ← lower, List.length_map]
    have number : Text.ofDigits 16 digits = id.bits.toNat := by
      rw [← ofDigits_map_toLower hexadecimal, lower, ofDigits_digits]
    rw [ofDigits?, if_pos ⟨length, List.all_eq_true.mpr hexadecimal⟩, number,
      BitVec.ofNat_toNat, BitVec.setWidth_eq]

/-! ## Groups -/

theorem grouped_hyphenate (length : digits.length = 32) : Grouped digits (hyphenate digits) := by
  refine ⟨digits.take 8, (digits.drop 8).take 4, (digits.drop 12).take 4, (digits.drop 16).take 4,
    digits.drop 20, ?_, rfl, ?_, ?_, ?_, ?_, ?_⟩
  · have joined : ∀ start, (digits.drop start).take 4 ++ digits.drop (start + 4) =
        digits.drop start := by
      intro start
      rw [← List.drop_drop, List.take_append_drop]
    rw [List.append_assoc, joined 16, List.append_assoc, joined 12, List.append_assoc, joined 8,
      List.take_append_drop]
  all_goals
    simp [length]

theorem Grouped.eq_hyphenate (groups : Grouped digits text) :
    digits.length = 32 ∧ text = hyphenate digits := by
  rcases groups with ⟨first, second, third, fourth, fifth, rfl, rfl, one, two, three, four, five⟩
  constructor
  · simp [one, two, three, four, five]
  · simp (disch := omega) [hyphenate, List.drop_append, List.drop_of_length_le, one, two, three]

theorem isDigitIn_of_lower (lower : digits.map Char.toLower = id.digits) :
    ∀ character ∈ digits, Text.isDigitIn 16 character = true :=
  allSmall_map_toLower.mp (lower ▸ id.allSmall_digits)

theorem not_mem_of_lower (lower : digits.map Char.toLower = id.digits) {character : Char}
    (foreign : Text.isDigitIn 16 character = false) : character ∉ digits := by
  intro member
  rw [isDigitIn_of_lower lower character member] at foreign
  cases foreign

theorem Grouped.mem (groups : Grouped digits text) {character : Char} (member : character ∈ text) :
    character ∈ digits ∨ character = '-' := by
  rcases groups with ⟨first, second, third, fourth, fifth, rfl, rfl, _⟩
  simp only [List.cons_append, List.append_assoc, List.mem_append, List.mem_cons] at member ⊢
  tauto

theorem ofGroups?_eq_some_iff : ofGroups? text = some id ↔
    ∃ digits : List Char, digits.map Char.toLower = id.digits ∧ Grouped digits text := by
  constructor
  · intro read
    simp only [ofGroups?] at read
    split at read
    · rename_i grouped
      have lower := ofDigits?_eq_some_iff.mp read
      have length : (text.filter (· ≠ '-')).length = 32 := by
        rw [← id.length_digits, ← lower, List.length_map]
      have groups := grouped_hyphenate length
      rw [grouped] at groups
      exact ⟨_, lower, groups⟩
    · cases read
  · rintro ⟨digits, lower, groups⟩
    rw [groups.eq_hyphenate.2, ofGroups?_hyphenate (not_mem_of_lower lower (by decide))]
    exact ofDigits?_eq_some_iff.mpr lower

/-! ## Layouts -/

theorem inBraces?_eq_some_iff {inner : List Char} :
    inBraces? text = some inner ↔ text = '\x7b' :: inner ++ ['\x7d'] := by
  constructor
  · intro found
    rw [inBraces?.eq_def] at found
    split at found
    · split at found
      · rename_i last
        cases found
        rcases List.getLast?_eq_some_iff.mp last with ⟨inner, rfl⟩
        simp
      · cases found
    · cases found
  · rintro rfl
    simp [inBraces?]

theorem afterUrn?_eq_some_iff {inner : List Char} :
    afterUrn? text = some inner ↔ text = "urn:uuid:".toList ++ inner := by
  constructor
  · intro found
    rw [afterUrn?] at found
    split at found
    · rename_i marked
      rcases List.isPrefixOf_iff_prefix.mp marked with ⟨rest, rfl⟩
      cases found
      rfl
    · cases found
  · rintro rfl
    rfl

/-- A text without what marks a layout is read as digits or groups. -/
theorem parseExact?_of_unmarked (brace : '\x7b' ∉ text) (letter : 'u' ∉ text) :
    parseExact? text = if text.length = 32 then ofDigits? text else ofGroups? text := by
  rw [parseExact?, inBraces?_eq_none brace, afterUrn?_eq_none letter]

theorem spells_of_parseExact? (read : parseExact? text = some id) : Spells text id := by
  rw [parseExact?] at read
  split at read
  · rename_i inner found
    rcases ofGroups?_eq_some_iff.mp read with ⟨digits, lower, groups⟩
    rw [inBraces?_eq_some_iff.mp found]
    exact ⟨digits, lower, .braced groups⟩
  · rename_i inner _ found
    rcases ofGroups?_eq_some_iff.mp read with ⟨digits, lower, groups⟩
    rw [afterUrn?_eq_some_iff.mp found]
    exact ⟨digits, lower, .urn groups⟩
  · split at read
    · exact ⟨text, ofDigits?_eq_some_iff.mp read, .plain⟩
    · rcases ofGroups?_eq_some_iff.mp read with ⟨digits, lower, groups⟩
      exact ⟨digits, lower, .grouped groups⟩

theorem parseExact?_of_spells (spells : Spells text id) : parseExact? text = some id := by
  rcases spells with ⟨digits, lower, layout⟩
  have brace : '\x7b' ∉ digits := not_mem_of_lower lower (by decide)
  have letter : 'u' ∉ digits := not_mem_of_lower lower (by decide)
  have length : digits.length = 32 := by
    rw [← id.length_digits, ← lower, List.length_map]
  have read : ∀ {text : List Char}, Grouped digits text → ofGroups? text = some id :=
    fun groups => ofGroups?_eq_some_iff.mpr ⟨digits, lower, groups⟩
  cases layout with
  | plain =>
      rw [parseExact?_of_unmarked brace letter, if_pos length]
      exact ofDigits?_eq_some_iff.mpr lower
  | grouped groups =>
      have unmarked : '\x7b' ∉ text ∧ 'u' ∉ text := by
        constructor
        · exact fun member => (groups.mem member).elim brace (absurd · (by decide))
        · exact fun member => (groups.mem member).elim letter (absurd · (by decide))
      have long : text.length ≠ 32 := by
        rcases groups with ⟨_, _, _, _, _, _, rfl, one, two, three, four, five⟩
        simp [one, two, three, four, five]
      rw [parseExact?_of_unmarked unmarked.1 unmarked.2, if_neg long]
      exact read groups
  | braced groups =>
      rw [parseExact?, inBraces?_eq_some_iff.mpr rfl]
      exact read groups
  | @urn text groups =>
      have bare : inBraces? ("urn:uuid:".toList ++ text) = none := rfl
      rw [parseExact?, bare, afterUrn?_eq_some_iff.mpr rfl]
      exact read groups

theorem parseExact?_eq_some_iff : parseExact? text = some id ↔ Spells text id :=
  ⟨spells_of_parseExact?, parseExact?_of_spells⟩

/-- A spelling has no blanks. -/
theorem visible_of_spells (spells : Spells text id) :
    ∀ character ∈ text, Text.isBlank character = false := by
  rcases spells with ⟨digits, lower, layout⟩
  have digit : ∀ character ∈ digits, Text.isBlank character = false := by
    intro character member
    apply Text.forall_isDigitIn _ (isDigitIn_of_lower lower character member)
    decide
  have group : ∀ {text : List Char}, Grouped digits text →
      ∀ character ∈ text, Text.isBlank character = false := by
    intro text groups character member
    rcases groups.mem member with listed | rfl
    · exact digit character listed
    · decide
  cases layout with
  | plain => exact digit
  | grouped groups => exact group groups
  | braced groups =>
      simp only [List.cons_append, List.forall_mem_cons, List.forall_mem_append]
      exact ⟨by decide, group groups, by decide, nofun⟩
  | urn groups =>
      have marks : "urn:uuid:".toList.any Text.isBlank = false := rfl
      simp only [List.any_eq_false, Bool.not_eq_true] at marks
      exact List.forall_mem_append.mpr ⟨marks, group groups⟩

theorem parse?_eq_some_iff {text : String} :
    parse? text = some id ↔ Spells (Text.trim text.toList) id :=
  parseExact?_eq_some_iff

theorem parse?_surrounded {before after spelling : List Char} (spells : Spells spelling id)
    (blankBefore : ∀ character ∈ before, Text.isBlank character = true)
    (blankAfter : ∀ character ∈ after, Text.isBlank character = true) :
    parse? (String.ofList (before ++ spelling ++ after)) = some id := by
  rw [parse?_eq_some_iff, String.toList_ofList, Text.trim_surrounded blankBefore blankAfter,
    Text.trim_of_visible (visible_of_spells spells)]
  exact spells

/-! ## The order of ids -/

theorem grouped_characters (id : CorrelationId) : Grouped id.digits id.characters :=
  grouped_hyphenate id.length_digits

/-- Hyphens at the same places do not change the order. -/
theorem Grouped.lt_iff {others other : List Char} (groups : Grouped digits text)
    (same : Grouped others other) : text < other ↔ digits < others := by
  rcases groups with ⟨first, second, third, fourth, fifth, rfl, rfl, one, two, three, four, _⟩
  rcases same with ⟨_, _, _, _, _, rfl, rfl, first', second', third', fourth', _⟩
  simp only [List.append_assoc, List.cons_append, List.cons_lt_cons_self,
    Text.append_lt_append_iff (one.trans first'.symm),
    Text.append_lt_append_iff (two.trans second'.symm),
    Text.append_lt_append_iff (three.trans third'.symm),
    Text.append_lt_append_iff (four.trans fourth'.symm)]

/-- Ids are ordered as their texts. -/
theorem lt_iff_text_lt {left right : CorrelationId} : left < right ↔ left.text < right.text := by
  have lengths : left.digits.length = right.digits.length := by
    rw [length_digits, length_digits]
  have numbers := Text.ofDigits_lt_iff (by decide) (by decide) left.allSmall_digits
    right.allSmall_digits lengths
  rw [String.lt_iff_toList_lt, text, text, String.toList_ofList, String.toList_ofList,
    left.grouped_characters.lt_iff right.grouped_characters, ← numbers, ofDigits_digits,
    ofDigits_digits]
  exact BitVec.lt_def

theorem le_iff_text_le {left right : CorrelationId} : left ≤ right ↔ left.text ≤ right.text := by
  have above : left ≤ right ↔ ¬right < left := BitVec.not_lt.symm
  rw [above, lt_iff_text_lt, String.not_lt]

theorem mem_of_allSmall (small : Text.AllSmall 16 digits) :
    ∀ character ∈ digits, character ∈ "0123456789abcdef".toList := by
  have listed : ∀ digit < 16, Nat.digitChar digit ∈ "0123456789abcdef".toList := by decide
  intro character member
  rcases small character member with ⟨digit, bound, rfl⟩
  exact listed digit bound

/-- A text is read as an id exactly if it is a spelling of the id with blanks around it, so every
spelling is read whatever the blanks are. What is printed of an id are its small digits in groups,
and that is read as the id again. Ids, and deadlines at the same instant, are ordered as these texts.
-/
theorem read_by_spelling :
    (∀ (text : String) (id : CorrelationId),
      parse? text = some id ↔ Spells (Text.trim text.toList) id) ∧
    (∀ (id : CorrelationId) (before spelling after : List Char), Spells spelling id →
      (∀ character ∈ before, Text.isBlank character = true) →
      (∀ character ∈ after, Text.isBlank character = true) →
        parse? (String.ofList (before ++ spelling ++ after)) = some id) ∧
    (∀ id : CorrelationId, Grouped id.digits id.text.toList ∧
      id.digits.length = 32 ∧ (∀ character ∈ id.digits, character ∈ "0123456789abcdef".toList) ∧
        Text.ofDigits 16 id.digits = id.bits.toNat) ∧
    (∀ text : String, (parse? text).bind (fun id => parse? id.text) = parse? text) ∧
    ∀ left right : CorrelationId,
      (left < right ↔ left.text < right.text) ∧ (left ≤ right ↔ left.text ≤ right.text) ∧
        ∀ due : Instant, (⟨due, left⟩ : Deadline) ≤ ⟨due, right⟩ ↔ left.text ≤ right.text := by
  refine ⟨fun _ _ => parse?_eq_some_iff, ?_, ?_, fun text => ?_, ?_⟩
  · intro id before spelling after spells blankBefore blankAfter
    exact parse?_surrounded spells blankBefore blankAfter
  · intro id
    rw [text, String.toList_ofList]
    exact ⟨id.grouped_characters, id.length_digits, mem_of_allSmall id.allSmall_digits,
      id.ofDigits_digits⟩
  · simp only [parse?_text, Option.bind_fun_some]
  · intro left right
    refine ⟨lt_iff_text_lt, le_iff_text_le, fun due => ?_⟩
    rw [← le_iff_text_le, Deadline.le_iff]
    simp only [Nat.lt_irrefl, false_or, true_and]
    exact BitVec.le_def.symm

/-- Capital and small digits in braces, between an em space and a line break. -/
theorem read_by_spelling_of_braced :
    let id : CorrelationId := ⟨0x936da01f9abd4d9d80c702af85c822a8⟩
    let spelling := '\x7b' :: "936DA01F-9abd-4D9d-80c7-02aF85C822A8".toList ++ ['\x7d']
    Spells spelling id ∧ parse? (String.ofList (['\u2003'] ++ spelling ++ ['\n'])) = some id := by
  intro id spelling
  have spells : Spells spelling id := by
    refine ⟨"936DA01F9abd4D9d80c702aF85C822A8".toList, by decide +kernel, .braced ?_⟩
    exact ⟨"936DA01F".toList, "9abd".toList, "4D9d".toList, "80c7".toList, "02aF85C822A8".toList,
      rfl, rfl, rfl, rfl, rfl, rfl, rfl⟩
  have read := read_by_spelling.2.1 id ['\u2003'] spelling ['\n'] spells
  exact ⟨spells, read (List.all_eq_true.mp rfl) (List.all_eq_true.mp rfl)⟩

end CorrelationId

end Rendezvous
