import Mathlib.Data.List.Induction
import Mathlib.Tactic.Ring
import Rendezvous.Proofs.Text.Number

/-!
# Digits and the order of texts

Two numbers that are written with equally many small digits are ordered as their texts
(`ofDigits_lt_iff`), since the first digit that differs decides. So a text of small digits is known
by its length and its number (`eq_of_ofDigits_eq`). A character is a hexadecimal digit if it becomes
a small one in lower case (`toLower_eq_digitChar_iff`).
-/

namespace Rendezvous.Text

variable {base : Nat}

/-! ## The first digit -/

theorem ofDigits_cons (base : Nat) (digit : Char) (digits : List Char) :
    ofDigits base (digit :: digits) =
      (digitIn base digit).getD 0 * base ^ digits.length + ofDigits base digits := by
  induction digits using List.reverseRecOn with
  | nil => simp [ofDigits]
  | append_singleton digits last ih =>
      rw [← List.cons_append, ofDigits_concat, ofDigits_concat, ih, List.length_append,
        List.length_singleton]
      ring

theorem getD_digitIn_lt (positive : 0 < base) (digit : Char) :
    (digitIn base digit).getD 0 < base := by
  cases value : digitIn base digit with
  | none => exact positive
  | some number => simpa using (Option.filter_eq_some_iff.mp value).2

theorem ofDigits_lt (positive : 0 < base) (digits : List Char) :
    ofDigits base digits < base ^ digits.length := by
  induction digits with
  | nil => simp [ofDigits]
  | cons digit digits ih =>
      have value := Nat.mul_le_mul_right (base ^ digits.length)
        (Nat.succ_le_of_lt (getD_digitIn_lt positive digit))
      rw [ofDigits_cons, List.length_cons, Nat.pow_succ', Nat.succ_mul] at *
      omega

/-! ## The order of texts -/

theorem append_lt_append_iff {first second rest last : List Char}
    (same : first.length = second.length) :
    first ++ rest < second ++ last ↔ first < second ∨ (first = second ∧ rest < last) := by
  induction first generalizing second with
  | nil =>
      rw [List.length_nil, eq_comm, List.length_eq_zero_iff] at same
      simp [same]
  | cons character first ih =>
      cases second with
      | nil => cases same
      | cons other second =>
          have later := ih (Nat.succ.inj same)
          simp only [List.cons_append, List.cons_lt_cons_iff, later, List.cons.injEq]
          tauto

/-- A digit counts for more than all digits that come after it. -/
theorem mul_add_lt_iff {first second rest last unit : Nat} (small : rest < unit)
    (few : last < unit) :
    first * unit + rest < second * unit + last ↔
      first < second ∨ (first = second ∧ rest < last) := by
  rcases Nat.lt_trichotomy first second with below | rfl | above
  · have more := Nat.mul_le_mul_right unit (Nat.succ_le_of_lt below)
    rw [Nat.succ_mul] at more
    omega
  · omega
  · have more := Nat.mul_le_mul_right unit (Nat.succ_le_of_lt above)
    rw [Nat.succ_mul] at more
    omega

/-- Every character is a digit of a base, and no capital letter. -/
def AllSmall (base : Nat) (digits : List Char) : Prop :=
  ∀ character ∈ digits, ∃ digit < base, character = Nat.digitChar digit

theorem digitChar_lt_iff {left right : Nat} (small : left < 16) (few : right < 16) :
    Nat.digitChar left < Nat.digitChar right ↔ left < right := by
  have all : ∀ left < 16, ∀ right < 16,
      (Nat.digitChar left < Nat.digitChar right ↔ left < right) := by decide
  exact all left small right few

theorem digitChar_inj {left right : Nat} (small : left < 16) (few : right < 16) :
    Nat.digitChar left = Nat.digitChar right ↔ left = right := by
  have all : ∀ left < 16, ∀ right < 16,
      (Nat.digitChar left = Nat.digitChar right ↔ left = right) := by decide
  exact all left small right few

/-- Texts of equally many small digits are ordered as the numbers that they denote. -/
theorem ofDigits_lt_iff {left right : List Char} (few : base ≤ 16) (positive : 0 < base)
    (smallLeft : AllSmall base left) (smallRight : AllSmall base right)
    (same : left.length = right.length) :
    ofDigits base left < ofDigits base right ↔ left < right := by
  induction left generalizing right with
  | nil =>
      rw [List.length_nil, eq_comm, List.length_eq_zero_iff] at same
      simp [same, ofDigits]
  | cons character left ih =>
      cases right with
      | nil => cases same
      | cons other right =>
          rcases smallLeft character List.mem_cons_self with ⟨digit, small, rfl⟩
          rcases smallRight other List.mem_cons_self with ⟨second, smallSecond, rfl⟩
          have lengths : left.length = right.length := Nat.succ.inj same
          have later := ih (fun character member => smallLeft _ (List.mem_cons_of_mem _ member))
            (fun character member => smallRight _ (List.mem_cons_of_mem _ member)) lengths
          have bound := ofDigits_lt positive right
          rw [← lengths] at bound
          rw [ofDigits_cons, ofDigits_cons, digitIn_digitChar few small,
            digitIn_digitChar few smallSecond, List.cons_lt_cons_iff, ← lengths]
          simp only [Option.getD_some]
          rw [mul_add_lt_iff (ofDigits_lt positive left) bound, later,
            digitChar_lt_iff (by omega) (by omega), digitChar_inj (by omega) (by omega)]

/-- A number has one text of small digits of each length. -/
theorem eq_of_ofDigits_eq {left right : List Char} (few : base ≤ 16) (positive : 0 < base)
    (smallLeft : AllSmall base left) (smallRight : AllSmall base right)
    (same : left.length = right.length) (equal : ofDigits base left = ofDigits base right) :
    left = right := by
  have below := ofDigits_lt_iff few positive smallLeft smallRight same
  have above := ofDigits_lt_iff few positive smallRight smallLeft same.symm
  rw [equal] at below above
  apply List.le_antisymm
  · exact List.not_lt.mp (fun greater => Nat.lt_irrefl _ (above.mpr greater))
  · exact List.not_lt.mp (fun less => Nat.lt_irrefl _ (below.mpr less))

/-! ## Letter cases -/

theorem toNat_lt_of_isDigitIn {character : Char} (digit : isDigitIn base character = true) :
    character.toNat < 128 := by
  have bound : ∀ last : Char, last.toNat < 128 → character ≤ last → character.toNat < 128 :=
    fun _ few below => Nat.lt_of_le_of_lt below few
  simp only [isDigitIn, digitIn, digitValue] at digit
  split at digit
  · rename_i range
    exact bound '9' (by decide) range.2
  · split at digit
    · rename_i range
      exact bound 'z' (by decide) range.2
    · split at digit
      · rename_i range
        exact bound 'Z' (by decide) range.2
      · cases digit

/-- What holds of the digits among the first 128 characters holds of every digit. -/
theorem forall_isDigitIn {holds : Char → Prop}
    (ascii : ∀ number < 128, isDigitIn base (Char.ofNat number) = true → holds (Char.ofNat number))
    {character : Char} (digit : isDigitIn base character = true) : holds character := by
  have own := ascii character.toNat (toNat_lt_of_isDigitIn digit)
  rw [Char.ofNat_toNat] at own
  exact own digit

/-- A character is a hexadecimal digit, in either case, if it becomes the small one in lower case. -/
theorem toLower_eq_digitChar_iff {character : Char} {digit : Nat} (small : digit < 16) :
    character.toLower = Nat.digitChar digit ↔ digitIn 16 character = some digit := by
  have all : ∀ number < 128, ∀ digit < 16,
      ((Char.ofNat number).toLower = Nat.digitChar digit ↔
        digitIn 16 (Char.ofNat number) = some digit) := by
    decide
  by_cases ascii : character.toNat < 128
  · have own := all character.toNat ascii digit small
    rwa [Char.ofNat_toNat] at own
  · constructor
    · intro lower
      -- Only capital letters change in lower case.
      have same : character.toLower = character := by
        refine dif_neg ?_
        rintro ⟨_, capital⟩
        have bound : character.toNat ≤ 90 := capital
        omega
      have low : ∀ digit < 16, (Nat.digitChar digit).toNat < 128 := by decide
      rw [← same, lower] at ascii
      exact absurd (low digit small) ascii
    · intro value
      exact absurd (toNat_lt_of_isDigitIn (by rw [isDigitIn, value]; rfl)) ascii

end Rendezvous.Text
