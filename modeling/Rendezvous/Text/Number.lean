/-!
# Numbers in a text

Reading and writing of natural numbers. A written number has no leading zero; a number is read with
an optional plus sign and with any number of leading zeros, and only up to a limit: a larger one is
refused, never reduced.
-/

namespace Rendezvous

namespace Text

/-- The value of a digit up to `z`, with either case of a letter. -/
def digitValue (character : Char) : Option Nat :=
  if '0' ≤ character ∧ character ≤ '9' then
    some (character.toNat - '0'.toNat)
  else if 'a' ≤ character ∧ character ≤ 'z' then
    some (character.toNat - 'a'.toNat + 10)
  else if 'A' ≤ character ∧ character ≤ 'Z' then
    some (character.toNat - 'A'.toNat + 10)
  else
    none

/-- The value of a character that is a digit of the given base. -/
def digitIn (base : Nat) (character : Char) : Option Nat :=
  (digitValue character).filter (· < base)

/-- Whether a character is a digit of the given base. -/
def isDigitIn (base : Nat) (character : Char) : Bool :=
  (digitIn base character).isSome

/-- The number that a run of digits of the given base denotes. -/
def ofDigits (base : Nat) (digits : List Char) : Nat :=
  digits.foldl (fun number digit => number * base + (digitIn base digit).getD 0) 0

/-- The text after one plus sign, if it begins with one. -/
def dropPlus : List Char → List Char
  | '+' :: rest => rest
  | text => text

/-- The number up to a limit that a whole text denotes: an optional plus sign and decimal digits. -/
def readNatural (limit : Nat) (text : List Char) : Option Nat :=
  let digits := dropPlus text
  let number := ofDigits 10 digits
  if digits.isEmpty then none
  else if digits.all (isDigitIn 10) && decide (number ≤ limit) then some number
  else none

/-- The decimal digits of a number. -/
def showNatural (number : Nat) : List Char :=
  Nat.toDigits 10 number

/-- The decimal digits of an integer, after a minus sign if it is negative. -/
def showInteger : Int → List Char
  | .ofNat number => showNatural number
  | .negSucc number => '-' :: showNatural (number + 1)

/-- The digits of a number in the given base, with zeros in front up to the given length. -/
def showPadded (base length number : Nat) : List Char :=
  let digits := Nat.toDigits base number
  List.replicate (length - digits.length) '0' ++ digits

/-- Whether two texts differ at most in the case of their ASCII letters. -/
def sameLetters (left right : List Char) : Bool :=
  left.map Char.toLower == right.map Char.toLower

end Text

end Rendezvous
