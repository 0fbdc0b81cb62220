/-!
# The magnitude of decimal numbers

A decimal number `significand * 10 ^ exponent` is too large when its binary64 approximation, computed
as the rounded significand times the rounded power of ten, has no finite value. The rule is stated in
exact natural numbers.
-/

namespace Rendezvous

namespace Json

/-- A number rounded to 53 significant bits, where a tie goes to the even neighbour. -/
def roundToDouble (number : Nat) : Nat :=
  let shift := number.log2 - 52
  let unit := Nat.pow 2 shift
  let quotient := number / unit
  let doubled := 2 * (number % unit)
  if shift = 0 then number
  else if unit < doubled ∨ (doubled = unit ∧ quotient % 2 = 1) then (quotient + 1) * unit
  else quotient * unit

/-- The least number whose nearest binary64 value is infinite. -/
def doubleBound : Nat :=
  Nat.pow 2 1024 - Nat.pow 2 970

/-- Whether a decimal number has no finite binary64 approximation. -/
def exceedsDouble (significand : Nat) (exponent : Int) : Bool :=
  if significand = 0 || exponent < 0 then false
  else if 308 < exponent then true
  else doubleBound ≤ roundToDouble significand * roundToDouble (Nat.pow 10 exponent.toNat)

end Json

end Rendezvous
