import Rendezvous.CorrelationId
import Rendezvous.Proofs.Text.Number
import Rendezvous.Proofs.Text.Trimming

/-!
# The text of a correlation id

The text of an id is made of small hexadecimal digits and hyphens, and it is read as the id that it
was written for (`CorrelationId.parse?_text`).
-/

namespace Rendezvous

namespace CorrelationId

/-! ## The characters of an id -/

/-- The characters that occur in the text of an id. -/
def alphabet : List Char :=
  "0123456789abcdef-".toList

/-- What holds of the sixteen digits holds of the digits of an id. -/
theorem forall_digits {holds : Char → Prop}
    (single : ∀ digit < 16, holds (Nat.digitChar digit)) (id : CorrelationId) :
    ∀ character ∈ id.digits, holds character :=
  Text.forall_showPadded (by decide) single 32 _

theorem digits_alphabet (id : CorrelationId) : ∀ character ∈ id.digits, character ∈ alphabet :=
  forall_digits (by decide) id

theorem isDigitIn_digits (id : CorrelationId) :
    ∀ character ∈ id.digits, Text.isDigitIn 16 character = true :=
  Text.isDigitIn_showPadded (by decide) (by decide) 32 _

theorem characters_alphabet (id : CorrelationId) :
    ∀ character ∈ id.characters, character ∈ alphabet := by
  have part : ∀ {group : List Char}, group ⊆ id.digits →
      ∀ character ∈ group, character ∈ alphabet :=
    fun contained character member => id.digits_alphabet character (contained member)
  have hyphen : '-' ∈ alphabet := by decide
  have group : ∀ start length : Nat, (id.digits.drop start).take length ⊆ id.digits :=
    fun _ _ => List.Subset.trans (List.take_subset _ _) (List.drop_subset _ _)
  simp only [characters, hyphenate, List.append_assoc, List.cons_append, List.forall_mem_append,
    List.forall_mem_cons]
  exact ⟨part (List.take_subset _ _), hyphen, part (group 8 4), hyphen, part (group 12 4), hyphen,
    part (group 16 4), hyphen, part (List.drop_subset _ _)⟩

theorem comma_not_mem_characters (id : CorrelationId) : ',' ∉ id.characters :=
  fun member => absurd (id.characters_alphabet _ member) (by decide)

theorem trim_characters (id : CorrelationId) : Text.trim id.characters = id.characters := by
  have visible := Text.visible_of_any (show alphabet.any Text.isBlank = false by decide)
  exact Text.trim_of_visible fun character member =>
    visible character (id.characters_alphabet character member)

/-! ## Reading the text of an id -/

theorem length_digits (id : CorrelationId) : id.digits.length = 32 :=
  Text.length_showPadded ((Nat.length_toDigits_le_iff (by decide) (by decide)).mpr id.bits.isLt)

theorem ofDigits?_digits (id : CorrelationId) : ofDigits? id.digits = some id := by
  have hexadecimal : id.digits.all (Text.isDigitIn 16) = true :=
    List.all_eq_true.mpr id.isDigitIn_digits
  rw [ofDigits?, if_pos ⟨id.length_digits, hexadecimal⟩, digits,
    Text.ofDigits_showPadded (by decide) (by decide),
    BitVec.ofNat_toNat, BitVec.setWidth_eq]

/-- Without its hyphens a text in groups is the run of its digits. -/
theorem filter_hyphenate {digits : List Char} (plain : '-' ∉ digits) :
    (hyphenate digits).filter (· ≠ '-') = digits := by
  have kept : ∀ {group : List Char}, group ⊆ digits → group.filter (· ≠ '-') = group := by
    refine fun part => List.filter_eq_self.mpr fun character member => decide_eq_true ?_
    rintro rfl
    exact plain (part member)
  have group : ∀ start length : Nat, (digits.drop start).take length ⊆ digits :=
    fun _ _ => List.Subset.trans (List.take_subset _ _) (List.drop_subset _ _)
  have joined : ∀ start length : Nat, (digits.drop start).take length ++
      digits.drop (start + length) = digits.drop start := by
    intro start length
    rw [← List.drop_drop]
    exact List.take_append_drop length _
  have hyphen : ∀ rest : List Char, ('-' :: rest).filter (· ≠ '-') = rest.filter (· ≠ '-') :=
    fun _ => rfl
  rw [hyphenate]
  simp only [List.filter_append, hyphen, kept (List.take_subset _ _), kept (group _ _),
    kept (List.drop_subset _ _), List.append_assoc]
  rw [joined 16 4, joined 12 4, joined 8 4, List.take_append_drop]

theorem ofGroups?_hyphenate {digits : List Char} (plain : '-' ∉ digits) :
    ofGroups? (hyphenate digits) = ofDigits? digits := by
  have grouped : hyphenate ((hyphenate digits).filter (· ≠ '-')) = hyphenate digits := by
    rw [filter_hyphenate plain]
  rw [ofGroups?, if_pos grouped, filter_hyphenate plain]

theorem ofGroups?_characters (id : CorrelationId) : ofGroups? id.characters = some id := by
  have plain : '-' ∉ id.digits := fun member => absurd (id.isDigitIn_digits _ member) (by decide)
  rw [characters, ofGroups?_hyphenate plain, ofDigits?_digits]

theorem length_characters (id : CorrelationId) : id.characters.length = 36 := by
  simp [characters, hyphenate, length_digits]

theorem inBraces?_eq_none {text : List Char} (brace : '\x7b' ∉ text) : inBraces? text = none := by
  rw [inBraces?.eq_def]
  split
  · exact absurd List.mem_cons_self brace
  · rfl

theorem afterUrn?_eq_none {text : List Char} (letter : 'u' ∉ text) : afterUrn? text = none := by
  refine if_neg fun marked => letter ?_
  exact (List.isPrefixOf_iff_prefix.mp marked).subset List.mem_cons_self

/-- The text of an id is read as that id. -/
theorem parse?_text (id : CorrelationId) : parse? id.text = some id := by
  have foreign : ∀ character, character ∉ alphabet → character ∉ id.characters :=
    fun character other member => other (id.characters_alphabet character member)
  have bare := inBraces?_eq_none (foreign '\x7b' (by decide))
  have plain := afterUrn?_eq_none (foreign 'u' (by decide))
  have long : id.characters.length ≠ 32 := by
    rw [length_characters]
    decide
  rw [parse?, text, String.toList_ofList, trim_characters, parseExact?, bare, plain]
  exact (if_neg long).trans id.ofGroups?_characters

theorem text_injective {left right : CorrelationId} (same : left.text = right.text) :
    left = right := by
  have parsed := congrArg parse? same
  rw [parse?_text, parse?_text] at parsed
  exact Option.some.inj parsed

end CorrelationId

end Rendezvous
