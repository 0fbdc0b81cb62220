import Rendezvous.Proofs.Json.Spelling
import Rendezvous.Proofs.Text.Number

/-!
# The grammar of JSON values

Which texts are JSON numbers and JSON values, of any depth, said without a reader (`Json.Written`). A
value that nobody asked for is skipped exactly, whatever is in it and whatever follows
(`Json.skipValue_of_written`), and a reader that asks for a number takes exactly the number or
refuses it (`Json.leaves_readNumeral`).
-/

namespace Rendezvous.Json

/-! ## Numbers -/

/-- Decimal digits, at least one. -/
structure Digits (text : List Char) : Prop where
  nonempty : text ≠ []
  plain : ∀ digit ∈ text, Text.isDigitIn 10 digit = true

/-- The digits before the point, without a needless zero in front. -/
structure Whole (text : List Char) : Prop extends Digits text where
  short : text.head? = some '0' → text = ['0']

/-- A point with digits after it, or nothing. -/
inductive Fraction : List Char → Prop
  | absent : Fraction []
  | present {digits : List Char} (plain : Digits digits) : Fraction ('.' :: digits)

/-- A mark with a signed number after it, or nothing. -/
inductive Exponent : List Char → Prop
  | absent : Exponent []
  | present {mark : Char} {sign digits : List Char} (marks : mark = 'e' ∨ mark = 'E')
      (signed : sign = [] ∨ sign = ['+'] ∨ sign = ['-']) (plain : Digits digits) :
      Exponent (mark :: (sign ++ digits))

/-- A text that is a number. -/
inductive Number : List Char → Prop
  | unsigned {whole fraction exponent : List Char} (units : Whole whole)
      (decimals : Fraction fraction) (power : Exponent exponent) :
      Number (whole ++ (fraction ++ exponent))
  | negative {whole fraction exponent : List Char} (units : Whole whole)
      (decimals : Fraction fraction) (power : Exponent exponent) :
      Number ('-' :: (whole ++ (fraction ++ exponent)))

/-- A text does not go on with a number that comes before it. -/
def EndsNumber (rest : List Char) : Prop :=
  ∀ character ∈ rest.head?, Text.isDigitIn 10 character = false ∧ character ≠ '.' ∧
    opensExponent character = false

variable {text whole fraction exponent digits rest : List Char}

theorem EndsNumber.ends (stops : EndsNumber rest) : Text.Ends 10 rest :=
  fun character member => (stops character member).1

theorem EndsNumber.point (stops : EndsNumber rest) : rest.head? ≠ some '.' :=
  fun point => (stops '.' point).2.1 rfl

theorem readDigits_of_ends (plain : Digits digits) (ends : Text.Ends 10 rest) :
    readDigits (digits ++ rest) = .ok (digits, rest) := by
  rcases Text.span_of_ends plain.plain ends with ⟨taken, left⟩
  rw [readDigits.eq_def, taken, left]
  cases digits with
  | nil => exact absurd rfl plain.nonempty
  | cons => rfl

theorem readWhole_of_whole (units : Whole whole) (ends : Text.Ends 10 rest) :
    readWhole (whole ++ rest) = .ok (whole, rest) := by
  rw [readWhole, readDigits_of_ends units.toDigits ends]
  simp only [bind, Except.bind]
  split
  · cases units.short rfl
  · rfl

theorem readFraction_of_ends (point : rest.head? ≠ some '.') :
    readFraction rest = .ok (none, rest) := by
  rw [readFraction.eq_def]
  split
  · exact absurd rfl point
  · rfl

theorem readExponent_of_ends (stops : EndsNumber rest) : readExponent rest = .ok (none, rest) := by
  cases rest with
  | nil => rfl
  | cons first others => simp [readExponent, (stops first rfl).2.2]

theorem readFraction_of_fraction (decimals : Fraction fraction) (ends : Text.Ends 10 rest)
    (point : rest.head? ≠ some '.') :
    ∃ digits, readFraction (fraction ++ rest) = .ok (digits, rest) := by
  cases decimals with
  | absent => exact ⟨none, readFraction_of_ends point⟩
  | @present digits plain =>
      refine ⟨some digits, ?_⟩
      rw [List.cons_append, readFraction, readDigits_of_ends plain ends]
      rfl

theorem readExponent_of_exponent (power : Exponent exponent) (stops : EndsNumber rest) :
    ∃ size, readExponent (exponent ++ rest) = .ok (size, rest) := by
  cases power with
  | absent => exact ⟨none, readExponent_of_ends stops⟩
  | @present mark sign digits marks signed plain =>
      have opens : opensExponent mark = true := by
        rcases marks with rfl | rfl <;> rfl
      have read := readDigits_of_ends plain stops.ends
      have unsigned : readSign (digits ++ rest) = (false, digits ++ rest) := by
        cases digits with
        | nil => exact absurd rfl plain.nonempty
        | cons first others =>
            have digit := plain.plain first List.mem_cons_self
            rw [List.cons_append, readSign.eq_def]
            split
            · rename_i plus
              cases (List.cons.inj plus).1
              cases digit
            · rename_i minus
              cases (List.cons.inj minus).1
              cases digit
            · rfl
      rcases signed with rfl | rfl | rfl
      · exact ⟨some (Text.ofDigits 10 digits), by
          simp [readExponent, opens, unsigned, read, bind, Except.bind]⟩
      · exact ⟨some (Text.ofDigits 10 digits), by
          simp [readExponent, opens, readSign, read, bind, Except.bind]⟩
      · exact ⟨some (-(Text.ofDigits 10 digits : Int)), by
          simp [readExponent, opens, readSign, read, bind, Except.bind]⟩

/-- An exponent, or what follows it, ends the digits before it. -/
theorem Exponent.ends (power : Exponent exponent) (stops : EndsNumber rest) :
    Text.Ends 10 (exponent ++ rest) ∧ (exponent ++ rest).head? ≠ some '.' := by
  cases power with
  | absent => exact ⟨stops.ends, stops.point⟩
  | present marks => rcases marks with rfl | rfl <;> exact ⟨Text.ends_cons (by decide) _, by simp⟩

theorem Fraction.ends (decimals : Fraction fraction) (ends : Text.Ends 10 rest) :
    Text.Ends 10 (fraction ++ rest) := by
  cases decimals with
  | absent => exact ends
  | present => exact Text.ends_cons (by decide) _

/-- The parts of a number are read one after another. -/
theorem read_parts (units : Whole whole) (decimals : Fraction fraction) (power : Exponent exponent)
    (stops : EndsNumber rest) : ∃ digits size,
      readWhole (whole ++ (fraction ++ (exponent ++ rest))) =
        .ok (whole, fraction ++ (exponent ++ rest)) ∧
      readFraction (fraction ++ (exponent ++ rest)) = .ok (digits, exponent ++ rest) ∧
      readExponent (exponent ++ rest) = .ok (size, rest) := by
  have after := power.ends stops
  rcases readFraction_of_fraction decimals after.1 after.2 with ⟨digits, fraction⟩
  rcases readExponent_of_exponent power stops with ⟨size, exponent⟩
  exact ⟨digits, size, readWhole_of_whole units (decimals.ends after.1), fraction, exponent⟩

theorem Whole.cons (units : Whole whole) :
    ∃ first others, whole = first :: others ∧ Text.isDigitIn 10 first = true := by
  cases whole with
  | nil => exact absurd rfl units.nonempty
  | cons first others => exact ⟨first, others, rfl, units.plain first List.mem_cons_self⟩

theorem skipNumber_of_number (number : Number text) (stops : EndsNumber rest) :
    skipNumber (text ++ rest) = .ok rest := by
  cases number with
  | unsigned units decimals power =>
      rcases read_parts units decimals power stops with ⟨digits, size, first, second, third⟩
      rcases units.cons with ⟨character, others, rfl, digit⟩
      rw [List.append_assoc, List.append_assoc, skipNumber.eq_def]
      split
      rename_i unsigned
      split at unsigned
      · rename_i minus
        cases (List.cons.inj minus).1
        cases digit
      · cases unsigned
        simp only [first, second, third, skipFault, bind, Except.bind]
  | negative units decimals power =>
      rcases read_parts units decimals power stops with ⟨digits, size, first, second, third⟩
      rw [List.cons_append, List.append_assoc, List.append_assoc, skipNumber]
      simp only [first, second, third, skipFault, bind, Except.bind]

theorem leaves_readUnsigned (units : Whole whole) (decimals : Fraction fraction)
    (power : Exponent exponent) (stops : EndsNumber rest) (negative : Bool) :
    Leaves (readUnsigned negative (whole ++ (fraction ++ (exponent ++ rest)))) rest := by
  rcases read_parts units decimals power stops with ⟨digits, size, first, second, third⟩
  intro value after read
  simp only [readUnsigned, first, second, third, bind, Except.bind] at read
  split at read
  · cases read
  · cases read
    rfl

theorem leaves_readNumeral (number : Number text) (stops : EndsNumber rest) :
    Leaves (readNumeral (text ++ rest)) rest := by
  cases number with
  | unsigned units decimals power =>
      have leaves := leaves_readUnsigned units decimals power stops false
      rcases units.cons with ⟨character, others, rfl, digit⟩
      rw [List.append_assoc, List.append_assoc, readNumeral.eq_def]
      split
      · rename_i minus
        cases (List.cons.inj minus).1
        cases digit
      · exact leaves
  | negative units decimals power =>
      rw [List.cons_append, List.append_assoc, List.append_assoc]
      exact leaves_readUnsigned units decimals power stops true

theorem Number.cons (number : Number text) :
    ∃ first others, text = first :: others ∧ opensNumber first = true := by
  cases number with
  | unsigned units =>
      rcases units.cons with ⟨first, others, rfl, digit⟩
      exact ⟨first, _, rfl, by simp [opensNumber, digit]⟩
  | negative => exact ⟨'-', _, rfl, rfl⟩

/-! ## Values -/

/-- What a text of the grammar can be. -/
inductive Phrase
  | value
  /-- What stands between the brackets of an array that is not empty. -/
  | elements
  /-- What stands between the braces of an object that is not empty. -/
  | members
deriving DecidableEq

/-- A text is a phrase of JSON. White space may stand on both sides of every value, name and mark
inside an array or an object. -/
inductive Written : Phrase → List Char → Prop
  | word {text : List Char} (listed : text ∈ ["null".toList, "true".toList, "false".toList]) :
      Written .value text
  | number {text : List Char} (number : Number text) : Written .value text
  | string {text : List Char} (body : Body text) : Written .value ('"' :: (text ++ ['"']))
  | emptyArray {between : List Char} (spaces : Spaces between) :
      Written .value ('[' :: (between ++ [']']))
  | array {text : List Char} (elements : Written .elements text) :
      Written .value ('[' :: (text ++ [']']))
  | emptyObject {between : List Char} (spaces : Spaces between) :
      Written .value ('\x7b' :: (between ++ ['\x7d']))
  | object {text : List Char} (members : Written .members text) :
      Written .value ('\x7b' :: (text ++ ['\x7d']))
  | element {before value after : List Char} (left : Spaces before) (right : Spaces after)
      (written : Written .value value) : Written .elements (before ++ (value ++ after))
  | elements {before value after later : List Char} (left : Spaces before) (right : Spaces after)
      (written : Written .value value) (others : Written .elements later) :
      Written .elements (before ++ (value ++ (after ++ ',' :: later)))
  | member {before name between ahead value after : List Char} (left : Spaces before)
      (body : Body name) (gap : Spaces between) (space : Spaces ahead) (right : Spaces after)
      (written : Written .value value) :
      Written .members (before ++ '"' :: (name ++ '"' :: (between ++ ':' ::
        (ahead ++ (value ++ after)))))
  | members {before name between ahead value after later : List Char} (left : Spaces before)
      (body : Body name) (gap : Spaces between) (space : Spaces ahead) (right : Spaces after)
      (written : Written .value value) (others : Written .members later) :
      Written .members (before ++ '"' :: (name ++ '"' :: (between ++ ':' ::
        (ahead ++ (value ++ (after ++ ',' :: later))))))

namespace Phrase

/-- The mark that ends a phrase. -/
def closing : Phrase → List Char
  | .value => []
  | .elements => [']']
  | .members => ['\x7d']

/-- The text after a phrase and the mark that ends it. -/
def skipWithin : Phrase → (fuel : Nat) → List Char → Except Fault (List Char)
  | .value => skipValueWithin
  | .elements => skipElementsWithin
  | .members => skipMembersWithin

/-- How many steps into a phrase of some length are enough. -/
def depth (length : Nat) : Phrase → Nat
  | .value => 2 * length
  | .elements | .members => 2 * length + 1

end Phrase

theorem not_isSpace_of_opensNumber {character : Char} (opens : opensNumber character = true) :
    isSpace character = false := by
  apply Bool.eq_false_iff.mpr
  intro space
  simp only [isSpace, Bool.or_eq_true, beq_iff_eq] at space
  rcases space with ((rfl | rfl) | rfl) | rfl
  · cases opens
  · cases opens
  · cases opens
  · cases opens

variable {phrase : Phrase} {fuel : Nat}

/-- A value begins with a character that is no white space and ends no array. If it begins with a
quote it is a string, and if it begins like a number it is one. -/
theorem Written.value_cons (written : Written .value text) :
    ∃ first others, text = first :: others ∧ (isSpace first = false ∧ first ≠ ']') ∧
      (first = '"' → ∃ body, others = body ++ ['"'] ∧ Body body) ∧
      (opensNumber first = true → Number text) := by
  have other : ∀ first others,
      first ≠ '"' ∧ opensNumber first = false ∧ isSpace first = false ∧ first ≠ ']' →
      ∃ opening later, first :: others = opening :: later ∧
        (isSpace opening = false ∧ opening ≠ ']') ∧
        (opening = '"' → ∃ body, later = body ++ ['"'] ∧ Body body) ∧
        (opensNumber opening = true → Number (first :: others)) := by
    rintro first others ⟨quote, sign, visible⟩
    exact ⟨first, others, rfl, visible, fun same => absurd same quote,
      fun opens => by cases sign.symm.trans opens⟩
  cases written with
  | string body => exact ⟨_, _, rfl, by decide, fun _ => ⟨_, rfl, body⟩, nofun⟩
  | number number =>
      rcases number.cons with ⟨first, others, rfl, opens⟩
      have mark : ∀ character, opensNumber character = false → first ≠ character := by
        rintro character sign rfl
        cases sign.symm.trans opens
      exact ⟨first, others, rfl, ⟨not_isSpace_of_opensNumber opens, mark ']' rfl⟩,
        fun quote => absurd quote (mark '"' rfl), fun _ => number⟩
  | word listed =>
      simp only [List.mem_cons, List.not_mem_nil, or_false] at listed
      rcases listed with rfl | rfl | rfl <;> exact other _ _ (by decide)
  | emptyArray => exact other _ _ (by decide)
  | array => exact other _ _ (by decide)
  | emptyObject => exact other _ _ (by decide)
  | object => exact other _ _ (by decide)

theorem Written.elements_cons (written : Written .elements text) :
    ∃ before first others, text = before ++ first :: others ∧ Spaces before ∧
      isSpace first = false ∧ first ≠ ']' := by
  cases written with
  | element left right value =>
      rcases value.value_cons with ⟨first, others, rfl, opens, _⟩
      exact ⟨_, first, _, rfl, left, opens⟩
  | elements left right value =>
      rcases value.value_cons with ⟨first, others, rfl, opens, _⟩
      exact ⟨_, first, _, rfl, left, opens⟩

theorem Written.members_cons (written : Written .members text) :
    ∃ before others, text = before ++ '"' :: others ∧ Spaces before := by
  cases written with
  | member left => exact ⟨_, _, rfl, left⟩
  | members left => exact ⟨_, _, rfl, left⟩

/-! ## Values that are skipped -/

theorem skipWord_append (letters rest : List Char) :
    skipWord letters (letters ++ rest) = .ok rest := by
  induction letters with
  | nil => rfl
  | cons letter letters ih => simpa [skipWord] using ih

theorem skipValueWithin_spaces {before : List Char} (spaces : Spaces before) (rest : List Char) :
    skipValueWithin fuel (before ++ rest) = skipValueWithin fuel rest := by
  cases fuel with
  | zero => rfl
  | succ fuel => rw [skipValueWithin, skipValueWithin, skipSpace_of_spaces spaces]

theorem skipValueWithin_word (listed : text ∈ ["null".toList, "true".toList, "false".toList])
    (rest : List Char) : skipValueWithin (fuel + 1) (text ++ rest) = .ok rest := by
  simp only [List.mem_cons, List.not_mem_nil, or_false] at listed
  rcases listed with rfl | rfl | rfl
  · exact skipWord_append "ull".toList rest
  · exact skipWord_append "rue".toList rest
  · exact skipWord_append "alse".toList rest

theorem skipValueWithin_number (number : Number text) (stops : EndsNumber rest) :
    skipValueWithin (fuel + 1) (text ++ rest) = .ok rest := by
  have skipped := skipNumber_of_number number stops
  rcases number.cons with ⟨first, others, rfl, opens⟩
  have quote : first ≠ '"' := by
    rintro rfl
    cases opens
  rw [List.cons_append] at skipped ⊢
  rw [skipValueWithin, skipSpace_cons (not_isSpace_of_opensNumber opens)]
  simp only [quote, opens, if_false, if_true, skipped]

theorem skipValueWithin_string (body : Body text) (rest : List Char) :
    skipValueWithin (fuel + 1) ('"' :: (text ++ '"' :: rest)) = .ok rest := by
  rw [skipValueWithin, skipSpace_cons (by decide)]
  exact skipStringBody_of_body body rest

theorem skipValueWithin_bracket (fuel : Nat) (rest : List Char) :
    skipValueWithin (fuel + 1) ('[' :: rest) =
      match skipSpace rest with
      | [] => .error .unexpectedEnd
      | next :: after => if next = ']' then .ok after else skipElementsWithin fuel rest := by
  rw [skipValueWithin, skipSpace_cons (by decide)]
  rfl

theorem skipValueWithin_brace (fuel : Nat) (rest : List Char) :
    skipValueWithin (fuel + 1) ('\x7b' :: rest) =
      match skipSpace rest with
      | [] => .error .unexpectedEnd
      | next :: after => if next = '\x7d' then .ok after else skipMembersWithin fuel rest := by
  rw [skipValueWithin, skipSpace_cons (by decide)]
  rfl

theorem skipValueWithin_emptyArray {between : List Char} (spaces : Spaces between)
    (rest : List Char) :
    skipValueWithin (fuel + 1) ('[' :: (between ++ ']' :: rest)) = .ok rest := by
  rw [skipValueWithin_bracket, skipSpace_append spaces (by decide)]
  rfl

theorem skipValueWithin_emptyObject {between : List Char} (spaces : Spaces between)
    (rest : List Char) :
    skipValueWithin (fuel + 1) ('\x7b' :: (between ++ '\x7d' :: rest)) = .ok rest := by
  rw [skipValueWithin_brace, skipSpace_append spaces (by decide)]
  rfl

theorem skipValueWithin_array (elements : Written .elements text)
    (skipped : skipElementsWithin fuel (text ++ ']' :: rest) = .ok rest) :
    skipValueWithin (fuel + 1) ('[' :: (text ++ ']' :: rest)) = .ok rest := by
  rcases elements.elements_cons with ⟨before, first, others, rfl, spaces, visible, open'⟩
  rw [List.append_assoc, List.cons_append] at skipped ⊢
  rw [skipValueWithin_bracket, skipSpace_append spaces visible]
  simp only [if_neg open']
  exact skipped

theorem skipValueWithin_object (members : Written .members text)
    (skipped : skipMembersWithin fuel (text ++ '\x7d' :: rest) = .ok rest) :
    skipValueWithin (fuel + 1) ('\x7b' :: (text ++ '\x7d' :: rest)) = .ok rest := by
  rcases members.members_cons with ⟨before, others, rfl, spaces⟩
  rw [List.append_assoc, List.cons_append] at skipped ⊢
  rw [skipValueWithin_brace, skipSpace_append spaces (by decide)]
  exact skipped

/-- After white space a mark ends every number. -/
theorem endsNumber_append {after : List Char} {mark : Char} (spaces : Spaces after)
    (marks : mark = ',' ∨ mark = ']' ∨ mark = '\x7d') (rest : List Char) :
    EndsNumber (after ++ mark :: rest) := by
  intro character first
  cases after with
  | nil =>
      cases first
      rcases marks with rfl | rfl | rfl <;> decide
  | cons space others =>
      rw [List.cons_append, List.head?_cons, Option.mem_some_iff] at first
      subst first
      have blank := spaces space List.mem_cons_self
      simp only [isSpace, Bool.or_eq_true, beq_iff_eq] at blank
      rcases blank with ((rfl | rfl) | rfl) | rfl <;> decide

theorem skipElementsWithin_succ {before value after : List Char} {mark : Char}
    (left : Spaces before) (right : Spaces after) (visible : isSpace mark = false)
    (skipped : skipValueWithin fuel (value ++ (after ++ mark :: rest)) =
      .ok (after ++ mark :: rest)) :
    skipElementsWithin (fuel + 1) (before ++ (value ++ (after ++ mark :: rest))) =
      if mark = ',' then skipElementsWithin fuel rest
      else if mark = ']' then .ok rest
      else .error .malformed := by
  rw [skipElementsWithin, skipValueWithin_spaces left, skipped]
  change (match skipSpace (after ++ mark :: rest) with | [] => _ | character :: rest => _) = _
  rw [skipSpace_append right visible]

theorem skipColon_append {between : List Char} (gap : Spaces between) (rest : List Char) :
    skipColon (between ++ ':' :: rest) = .ok rest := by
  rw [skipColon, skipSpace_append gap (by decide)]
  rfl

theorem skipMembersWithin_succ {before name between ahead value after : List Char} {mark : Char}
    (left : Spaces before) (body : Body name) (gap : Spaces between) (space : Spaces ahead)
    (right : Spaces after) (visible : isSpace mark = false)
    (skipped : skipValueWithin fuel (value ++ (after ++ mark :: rest)) =
      .ok (after ++ mark :: rest)) :
    skipMembersWithin (fuel + 1) (before ++ '"' :: (name ++ '"' :: (between ++ ':' ::
        (ahead ++ (value ++ (after ++ mark :: rest)))))) =
      if mark = ',' then skipMembersWithin fuel rest
      else if mark = '\x7d' then .ok rest
      else .error .malformed := by
  rw [skipMembersWithin, skipSpace_append left (by decide)]
  simp only [if_true, skipStringBody_of_body body, skipColon_append gap,
    skipValueWithin_spaces space, skipped, skipSpace_append right visible, bind, Except.bind]

/-- Fuel that is enough for a phrase is enough for a first step. -/
theorem Written.exists_fuel (written : Written phrase text)
    (enough : phrase.depth text.length ≤ fuel) : ∃ less, fuel = less + 1 := by
  refine Nat.exists_eq_succ_of_ne_zero ?_
  cases phrase with
  | value =>
      rcases written.value_cons with ⟨first, others, rfl, _⟩
      simp only [Phrase.depth, List.length_cons] at enough
      omega
  | elements =>
      simp only [Phrase.depth] at enough
      omega
  | members =>
      simp only [Phrase.depth] at enough
      omega

/-- A phrase is skipped together with the mark that ends it. -/
theorem skipWithin_of_written (written : Written phrase text)
    (enough : phrase.depth text.length ≤ fuel) (stops : phrase = .value → EndsNumber rest) :
    phrase.skipWithin fuel (text ++ (phrase.closing ++ rest)) = .ok rest := by
  -- Each step into a phrase takes one unit of fuel, and the parts of a phrase are shorter.
  induction written generalizing fuel rest with
  | word listed =>
      obtain ⟨fuel, rfl⟩ := (Written.word listed).exists_fuel enough
      exact skipValueWithin_word listed rest
  | number number =>
      obtain ⟨fuel, rfl⟩ := (Written.number number).exists_fuel enough
      exact skipValueWithin_number number (stops rfl)
  | string body =>
      obtain ⟨fuel, rfl⟩ := (Written.string body).exists_fuel enough
      simpa [Phrase.skipWithin, Phrase.closing] using skipValueWithin_string body rest
  | emptyArray spaces =>
      obtain ⟨fuel, rfl⟩ := (Written.emptyArray spaces).exists_fuel enough
      simpa [Phrase.skipWithin, Phrase.closing] using skipValueWithin_emptyArray spaces rest
  | @array text elements ih =>
      obtain ⟨fuel, rfl⟩ := (Written.array elements).exists_fuel enough
      have inner : skipElementsWithin fuel (text ++ ']' :: rest) = .ok rest :=
        ih (by simp [Phrase.depth] at enough ⊢; omega) nofun
      simpa [Phrase.skipWithin, Phrase.closing] using skipValueWithin_array elements inner
  | emptyObject spaces =>
      obtain ⟨fuel, rfl⟩ := (Written.emptyObject spaces).exists_fuel enough
      simpa [Phrase.skipWithin, Phrase.closing] using skipValueWithin_emptyObject spaces rest
  | @object text members ih =>
      obtain ⟨fuel, rfl⟩ := (Written.object members).exists_fuel enough
      have inner : skipMembersWithin fuel (text ++ '\x7d' :: rest) = .ok rest :=
        ih (by simp [Phrase.depth] at enough ⊢; omega) nofun
      simpa [Phrase.skipWithin, Phrase.closing] using skipValueWithin_object members inner
  | @element before value after left right written ih =>
      obtain ⟨fuel, rfl⟩ := (Written.element left right written).exists_fuel enough
      have skipped : skipValueWithin fuel (value ++ (after ++ ']' :: rest)) = .ok _ :=
        ih (by simp [Phrase.depth] at enough ⊢; omega) fun _ => endsNumber_append right (by simp) _
      simpa [Phrase.skipWithin, Phrase.closing] using
        skipElementsWithin_succ left right (by decide) skipped
  | @elements before value after later left right written others ihValue ih =>
      obtain ⟨fuel, rfl⟩ := (Written.elements left right written others).exists_fuel enough
      have skipped : skipValueWithin fuel (value ++ (after ++ ',' :: (later ++ ']' :: rest))) =
          .ok _ :=
        ihValue (by simp [Phrase.depth] at enough ⊢; omega)
          fun _ => endsNumber_append right (by simp) _
      have inner : skipElementsWithin fuel (later ++ ']' :: rest) = .ok rest :=
        ih (by simp [Phrase.depth] at enough ⊢; omega) nofun
      simpa [Phrase.skipWithin, Phrase.closing, inner] using
        skipElementsWithin_succ left right (by decide) skipped
  | @member before name between ahead value after left body gap space right written ih =>
      obtain ⟨fuel, rfl⟩ :=
        (Written.member left body gap space right written).exists_fuel enough
      have skipped : skipValueWithin fuel (value ++ (after ++ '\x7d' :: rest)) = .ok _ :=
        ih (by simp [Phrase.depth] at enough ⊢; omega) fun _ => endsNumber_append right (by simp) _
      simpa [Phrase.skipWithin, Phrase.closing] using
        skipMembersWithin_succ left body gap space right (by decide) skipped
  | @members before name between ahead value after later left body gap space right written others
      ihValue ih =>
      obtain ⟨fuel, rfl⟩ :=
        (Written.members left body gap space right written others).exists_fuel enough
      have skipped : skipValueWithin fuel (value ++ (after ++ ',' :: (later ++ '\x7d' :: rest))) =
          .ok _ :=
        ihValue (by simp [Phrase.depth] at enough ⊢; omega)
          fun _ => endsNumber_append right (by simp) _
      have inner : skipMembersWithin fuel (later ++ '\x7d' :: rest) = .ok rest :=
        ih (by simp [Phrase.depth] at enough ⊢; omega) nofun
      simpa [Phrase.skipWithin, Phrase.closing, inner] using
        skipMembersWithin_succ left body gap space right (by decide) skipped

/-- A value that nobody asked for is skipped, whatever is in it. -/
theorem skipValue_of_written {ahead : List Char} (space : Spaces ahead)
    (written : Written .value text) (stops : EndsNumber rest) :
    skipValue (ahead ++ (text ++ rest)) = .ok rest := by
  have enough : Phrase.value.depth text.length ≤ 2 * (ahead ++ (text ++ rest)).length + 2 := by
    simp [Phrase.depth]
    omega
  rw [skipValue, skipValueWithin_spaces space]
  exact skipWithin_of_written written enough fun _ => stops

end Rendezvous.Json
