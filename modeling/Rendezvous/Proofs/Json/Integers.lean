import Mathlib.Tactic.SplitIfs
import Rendezvous.Json.Record
import Rendezvous.Proofs.Json.Grammar

/-!
# Written integers are read back

An integer is written in decimal, with a minus sign if it is negative and without a zero in front.
So written it is a number of JSON (`Json.number_showInteger`), and it is read as itself if it fits in
64 bits (`Json.readInteger_showInteger`).
-/

namespace Rendezvous.Json

/-! ## The size of numbers -/

theorem roundToDouble_le (number : Nat) : roundToDouble number ≤ 2 * number := by
  rw [roundToDouble]
  split_ifs with plain tie
  · omega
  · have unit : Nat.pow 2 (number.log2 - 52) ≤ number := by
      have nonzero : number ≠ 0 := by
        rintro rfl
        exact plain (by decide)
      calc 2 ^ (number.log2 - 52)
          ≤ 2 ^ number.log2 := Nat.pow_le_pow_right (by decide) (Nat.sub_le _ _)
        _ ≤ number := Nat.log2_self_le nonzero
    have whole := Nat.div_mul_le_self number (Nat.pow 2 (number.log2 - 52))
    rw [Nat.add_mul]
    omega
  · have whole := Nat.div_mul_le_self number (Nat.pow 2 (number.log2 - 52))
    omega

theorem exceedsDouble_of_small {number : Nat} (small : number < UInt64.size) :
    exceedsDouble number 0 = false := by
  have rounded := roundToDouble_le number
  have one : roundToDouble (Nat.pow 10 (0 : Int).toNat) = 1 := by rfl
  have bound : 2 * UInt64.size ≤ doubleBound := by decide +kernel
  rw [exceedsDouble, one]
  simp
  omega

/-- The value of further digits after a number. -/
def extend (number : Nat) (digits : List Char) : Nat :=
  digits.foldl (fun number digit => number * 10 + (Text.digitIn 10 digit).getD 0) number

theorem le_extend (number : Nat) (digits : List Char) : number ≤ extend number digits := by
  induction digits generalizing number with
  | nil => exact Nat.le_refl number
  | cons digit digits ih =>
      have later := ih (number * 10 + (Text.digitIn 10 digit).getD 0)
      rw [extend, List.foldl_cons]
      rw [extend] at later
      omega

/-- All digits are kept of a number that fits in 64 bits. -/
theorem accumulate_of_small {number : Nat} {digits : List Char}
    (small : extend number digits < UInt64.size) :
    Numeral.accumulate number digits = (extend number digits, digits.length) := by
  induction digits generalizing number with
  | nil => rfl
  | cons digit digits ih =>
      have later : extend (number * 10 + (Text.digitIn 10 digit).getD 0) digits < UInt64.size :=
        small
      have fits : ¬UInt64.size ≤ number * 10 + (Text.digitIn 10 digit).getD 0 := by
        have bound := le_extend (number * 10 + (Text.digitIn 10 digit).getD 0) digits
        omega
      rw [Numeral.accumulate, if_neg fits, ih later]
      rfl

/-! ## Integers -/

variable {rest : List Char}

theorem whole_showNatural (number : Nat) : Whole (Text.showNatural number) where
  nonempty := Nat.toDigits_ne_nil
  plain := Text.isDigitIn_showNatural number
  short zero := by
    rcases Nat.eq_zero_or_pos number with rfl | positive
    · rfl
    · exact absurd zero (Text.head?_toDigits (by decide) (by decide) positive)

theorem number_showInteger (number : Int) : Number (Text.showInteger number) := by
  have written : ∀ number, Text.showNatural number = Text.showNatural number ++ ([] ++ []) := by
    simp
  cases number with
  | ofNat number =>
      rw [Text.showInteger, written]
      exact .unsigned (whole_showNatural number) .absent .absent
  | negSucc number =>
      rw [Text.showInteger, written]
      exact .negative (whole_showNatural (number + 1)) .absent .absent

theorem readUnsigned_showNatural {number : Nat} (small : number < UInt64.size)
    (stops : EndsNumber rest) (negative : Bool) :
    readUnsigned negative (Text.showNatural number ++ rest) =
      .ok (⟨negative, Text.showNatural number, none, none⟩, rest) := by
  have value : extend 0 (Text.showNatural number) = number :=
    Text.ofDigits_toDigits (by decide) (by decide) number
  have kept := accumulate_of_small (value.trans_lt small)
  -- Without a fraction and an exponent only the digits count for the size.
  have fits : Numeral.tooLarge ⟨negative, Text.showNatural number, none, none⟩ = false := by
    rw [Numeral.tooLarge, kept, value]
    simpa [Numeral.accumulate] using exceedsDouble_of_small small
  simp [readUnsigned, readWhole_of_whole (whole_showNatural number) stops.ends,
    readFraction_of_ends stops.point, readExponent_of_ends stops, fits, bind, Except.bind]

/-- A written integer is read as a numeral that denotes it. -/
theorem readNumeral_showInteger {number : Int} (small : number.natAbs < UInt64.size)
    (stops : EndsNumber rest) :
    ∃ numeral, readNumeral (Text.showInteger number ++ rest) = .ok (numeral, rest) ∧
      numeral.integer? = some number := by
  have value : ∀ number, Text.ofDigits 10 (Text.showNatural number) = number :=
    Text.ofDigits_toDigits (by decide) (by decide)
  cases number with
  | ofNat number =>
      have fits : number < UInt64.size := small
      refine ⟨⟨false, Text.showNatural number, none, none⟩, ?_, ?_⟩
      · have read := readUnsigned_showNatural fits stops false
        rcases (whole_showNatural number).cons with ⟨first, others, digits, digit⟩
        rw [Text.showInteger]
        rw [digits] at read ⊢
        rw [List.cons_append, readNumeral.eq_def]
        split
        · rename_i minus
          cases minus
          cases digit
        · exact read
      · simp [Numeral.integer?, value]
  | negSucc number =>
      have fits : number + 1 < UInt64.size := small
      refine ⟨_, readUnsigned_showNatural fits stops true, ?_⟩
      simp only [Numeral.integer?, value, if_true]
      rw [if_neg (Nat.succ_ne_zero number)]
      rfl

theorem readInteger_showInteger {least greatest number : Int}
    (bounds : least ≤ number ∧ number ≤ greatest) (small : number.natAbs < UInt64.size)
    (stops : EndsNumber rest) :
    readInteger least greatest (Text.showInteger number ++ rest) = .ok (number, rest) := by
  rcases readNumeral_showInteger small stops with ⟨numeral, read, denotes⟩
  rcases (number_showInteger number).cons with ⟨first, others, written, opens⟩
  rw [written, List.cons_append] at read ⊢
  rw [readInteger, skipSpace_cons (not_isSpace_of_opensNumber opens)]
  simp [opens, read, denotes, bounds, bind, Except.bind]

end Rendezvous.Json
