import Mathlib.Data.List.Induction
import Mathlib.Data.Nat.Digits.Defs
import Rendezvous.Text.Number

/-!
# Written numbers are read back

The digits of a number denote it in every base up to sixteen (`ofDigits_toDigits`), also with zeros
in front (`ofDigits_showPadded`). A decimal text is read as the number that it was written for if
this is within the limit (`readNatural_showNatural`); the texts that are read at all are those that
denote such a number (`readNatural_eq_some_iff`).
-/

namespace Rendezvous.Text

theorem digitIn_digitChar {base digit : Nat} (few : base ≤ 16) (small : digit < base) :
    digitIn base (Nat.digitChar digit) = some digit := by
  have value : ∀ digit < 16, digitValue (Nat.digitChar digit) = some digit := by decide
  rw [digitIn, value digit (by omega)]
  simpa using small

theorem ofDigits_concat (base : Nat) (digits : List Char) (digit : Char) :
    ofDigits base (digits ++ [digit]) =
      ofDigits base digits * base + (digitIn base digit).getD 0 := by
  rw [ofDigits, List.foldl_append]
  rfl

variable {base : Nat}

/-- What holds of each digit of a base holds of all digits of a number. -/
theorem forall_toDigits {holds : Char → Prop} (wide : 1 < base)
    (single : ∀ digit < base, holds (Nat.digitChar digit)) (number : Nat) :
    ∀ character ∈ Nat.toDigits base number, holds character := by
  induction number using Nat.strongRecOn with
  | ind number ih =>
      rw [Nat.toDigits_eq_if wide]
      split
      · rename_i small
        simpa using single number small
      · rename_i large
        have smaller : number / base < number := Nat.div_lt_self (by omega) wide
        refine List.forall_mem_append.mpr ⟨ih _ smaller, ?_⟩
        simpa using single _ (Nat.mod_lt number (by omega))

theorem ofDigits_toDigits (wide : 1 < base) (few : base ≤ 16) (number : Nat) :
    ofDigits base (Nat.toDigits base number) = number := by
  induction number using Nat.strongRecOn with
  | ind number ih =>
      rw [Nat.toDigits_eq_if wide]
      split
      · rename_i small
        rw [← List.nil_append [Nat.digitChar number], ofDigits_concat,
          digitIn_digitChar few small]
        simp [ofDigits]
      · rename_i large
        have smaller : number / base < number := Nat.div_lt_self (by omega) wide
        rw [ofDigits_concat, ih _ smaller, digitIn_digitChar few (Nat.mod_lt _ (by omega))]
        exact Nat.div_add_mod' number base

theorem isDigitIn_toDigits (wide : 1 < base) (few : base ≤ 16) (number : Nat) :
    ∀ character ∈ Nat.toDigits base number, isDigitIn base character = true := by
  refine forall_toDigits wide (fun digit small => ?_) number
  rw [isDigitIn, digitIn_digitChar few small]
  rfl

/-- A number is written with a zero in front only if it is zero. -/
theorem head?_toDigits (wide : 1 < base) (few : base ≤ 16) {number : Nat} (positive : 0 < number) :
    (Nat.toDigits base number).head? ≠ some '0' := by
  induction number using Nat.strongRecOn with
  | ind number ih =>
      rw [Nat.toDigits_eq_if wide]
      split
      · rename_i small
        have nonzero : ∀ digit < 16, 0 < digit → Nat.digitChar digit ≠ '0' := by decide
        simpa using nonzero number (by omega) positive
      · rename_i large
        have smaller : number / base < number := Nat.div_lt_self (by omega) wide
        have quotient : 0 < number / base := Nat.div_pos (by omega) (by omega)
        cases digits : Nat.toDigits base (number / base) with
        | nil => exact absurd digits Nat.toDigits_ne_nil
        | cons first rest =>
            have nonzero := ih _ smaller quotient
            rw [digits] at nonzero
            exact nonzero

/-! ## Digits with zeros in front -/

/-- What holds of each digit of a base holds of all digits of a number with zeros in front. -/
theorem forall_showPadded {holds : Char → Prop} (wide : 1 < base)
    (single : ∀ digit < base, holds (Nat.digitChar digit)) (length number : Nat) :
    ∀ character ∈ showPadded base length number, holds character := by
  refine List.forall_mem_append.mpr ⟨fun character member => ?_, ?_⟩
  · rw [List.eq_of_mem_replicate member]
    exact single 0 (by omega)
  · exact forall_toDigits wide single number

theorem isDigitIn_showPadded (wide : 1 < base) (few : base ≤ 16) (length number : Nat) :
    ∀ character ∈ showPadded base length number, isDigitIn base character = true := by
  refine forall_showPadded wide (fun digit small => ?_) length number
  rw [isDigitIn, digitIn_digitChar few small]
  rfl

/-- Zeros in front do not count. -/
theorem ofDigits_showPadded (wide : 1 < base) (few : base ≤ 16) (length number : Nat) :
    ofDigits base (showPadded base length number) = number := by
  have zero : digitIn base '0' = some 0 := digitIn_digitChar few (by omega : 0 < base)
  have padded : ∀ count digits,
      ofDigits base (List.replicate count '0' ++ digits) = ofDigits base digits := by
    intro count digits
    induction count with
    | zero => rfl
    | succ count ih =>
        rw [List.replicate_succ, List.cons_append, ofDigits, List.foldl_cons, zero]
        simpa [ofDigits] using ih
  rw [showPadded, padded, ofDigits_toDigits wide few]

theorem length_showPadded {length number : Nat}
    (short : (Nat.toDigits base number).length ≤ length) :
    (showPadded base length number).length = length := by
  rw [showPadded, List.length_append, List.length_replicate]
  exact Nat.sub_add_cancel short

/-! ## The end of a number -/

/-- A text does not begin with a digit of a base. -/
def Ends (base : Nat) (rest : List Char) : Prop :=
  ∀ character ∈ rest.head?, isDigitIn base character = false

theorem ends_cons {character : Char} (foreign : isDigitIn base character = false)
    (rest : List Char) : Ends base (character :: rest) := by
  simpa [Ends] using foreign

theorem ends_nil (base : Nat) : Ends base [] := by
  simp [Ends]

/-- Digits are taken up to where they end. -/
theorem span_of_ends {digits rest : List Char}
    (plain : ∀ character ∈ digits, isDigitIn base character = true) (ends : Ends base rest) :
    (digits ++ rest).takeWhile (isDigitIn base) = digits ∧
      (digits ++ rest).dropWhile (isDigitIn base) = rest := by
  rw [List.takeWhile_append_of_pos plain, List.dropWhile_append_of_pos plain]
  cases rest with
  | nil => simp
  | cons first others =>
      have foreign : isDigitIn base first = false := ends first (by simp)
      simp [foreign]

/-! ## Decimal texts -/

theorem isDigitIn_showNatural (number : Nat) :
    ∀ character ∈ showNatural number, isDigitIn 10 character = true :=
  isDigitIn_toDigits (by decide) (by decide) number

theorem dropPlus_of_digits {digits : List Char}
    (plain : ∀ character ∈ digits, isDigitIn 10 character = true) : dropPlus digits = digits := by
  rw [dropPlus.eq_def]
  split
  · have foreign : isDigitIn 10 '+' = false := by decide
    rw [plain '+' List.mem_cons_self] at foreign
    cases foreign
  · rfl

theorem readNatural_showNatural {limit number : Nat} (small : number ≤ limit) :
    readNatural limit (showNatural number) = some number := by
  have digits := isDigitIn_showNatural number
  have read : ofDigits 10 (showNatural number) = number :=
    ofDigits_toDigits (by decide) (by decide) number
  have nonempty : showNatural number ≠ [] := Nat.toDigits_ne_nil
  simp only [readNatural, dropPlus_of_digits digits, read, List.all_eq_true.mpr digits]
  simp [nonempty, small]

/-- The number that a run of decimal digits denotes, the last of which counts ones. -/
def decimalValue (digits : List Char) : Nat :=
  Nat.ofDigits 10 (digits.reverse.map fun digit => digit.toNat - '0'.toNat)

/-- A text denotes a number: ASCII digits after at most one plus sign. -/
def Denotes (text : List Char) (number : Nat) : Prop :=
  ∃ sign digits : List Char, text = sign ++ digits ∧ (sign = [] ∨ sign = ['+']) ∧ digits ≠ [] ∧
    (∀ digit ∈ digits, '0' ≤ digit ∧ digit ≤ '9') ∧ number = decimalValue digits

theorem isDigitIn_ten_iff {character : Char} :
    isDigitIn 10 character = true ↔ '0' ≤ character ∧ character ≤ '9' := by
  simp only [isDigitIn, digitIn, digitValue]
  split
  · rename_i decimal
    have bounds : 48 ≤ character.toNat ∧ character.toNat ≤ 57 := decimal
    simp [decimal]
    omega
  · rename_i other
    split
    · simp [other]
    · split
      · simp [other]
      · simp [other]

theorem digitIn_ten {digit : Char} (decimal : '0' ≤ digit ∧ digit ≤ '9') :
    digitIn 10 digit = some (digit.toNat - '0'.toNat) := by
  have bounds : 48 ≤ digit.toNat ∧ digit.toNat ≤ 57 := decimal
  simp [digitIn, digitValue, decimal]
  omega

theorem ofDigits_ten {digits : List Char}
    (decimal : ∀ digit ∈ digits, '0' ≤ digit ∧ digit ≤ '9') :
    ofDigits 10 digits = decimalValue digits := by
  induction digits using List.reverseRecOn with
  | nil => rfl
  | append_singleton digits last ih =>
      have before := ih fun digit member => decimal digit (List.mem_append_left _ member)
      rw [ofDigits_concat, before, digitIn_ten (decimal last (by simp))]
      simp [decimalValue, Nat.ofDigits_cons]
      omega

theorem exists_sign (text : List Char) :
    ∃ sign, text = sign ++ dropPlus text ∧ (sign = [] ∨ sign = ['+']) := by
  rw [dropPlus.eq_def]
  split
  · exact ⟨['+'], rfl, Or.inr rfl⟩
  · exact ⟨[], rfl, Or.inl rfl⟩

/-- A text is read exactly as the number up to the limit that it denotes. -/
theorem readNatural_eq_some_iff {limit number : Nat} {text : List Char} :
    readNatural limit text = some number ↔ Denotes text number ∧ number ≤ limit := by
  constructor
  · intro read
    simp only [readNatural] at read
    split at read
    · cases read
    · rename_i nonempty
      split at read
      · rename_i plain
        cases read
        rw [Bool.and_eq_true, List.all_eq_true, decide_eq_true_eq] at plain
        have decimal : ∀ digit ∈ dropPlus text, '0' ≤ digit ∧ digit ≤ '9' :=
          fun digit member => isDigitIn_ten_iff.mp (plain.1 digit member)
        rcases exists_sign text with ⟨sign, joined, signed⟩
        refine ⟨⟨sign, dropPlus text, joined, signed, ?_, decimal, ofDigits_ten decimal⟩, plain.2⟩
        simpa using nonempty
      · cases read
  · rintro ⟨⟨sign, digits, rfl, signed, nonempty, decimal, rfl⟩, small⟩
    have plain : ∀ digit ∈ digits, isDigitIn 10 digit = true :=
      fun digit member => isDigitIn_ten_iff.mpr (decimal digit member)
    have dropped : dropPlus (sign ++ digits) = digits := by
      rcases signed with rfl | rfl
      · exact dropPlus_of_digits plain
      · rfl
    simp only [readNatural, dropped, ofDigits_ten decimal, List.all_eq_true.mpr plain]
    simp [nonempty, small]

theorem denotes_showNatural (number : Nat) : Denotes (showNatural number) number :=
  (readNatural_eq_some_iff.mp (readNatural_showNatural (Nat.le_refl number))).1

end Rendezvous.Text
