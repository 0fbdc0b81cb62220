import Rendezvous.Text.Number

/-!
# Durations

A duration is a number of nanoseconds. Its text uses the largest of the units s, ms, µs and ns in
which it is at least one, with as many decimals as the value needs.
-/

namespace Rendezvous

/-- A length of time. -/
structure Duration where
  nanoseconds : Nat
deriving DecidableEq, Repr

namespace Duration

/-- The duration of a number of milliseconds. -/
def ofMilliseconds (milliseconds : Nat) : Duration :=
  ⟨milliseconds * 1000000⟩

/-- The duration of a number of seconds. -/
def ofSeconds (seconds : Nat) : Duration :=
  ⟨seconds * 1000000000⟩

def wholeMilliseconds (duration : Duration) : Nat :=
  duration.nanoseconds / 1000000

/-- A point and the decimals of `numerator / 10 ^ places`, without trailing zeros; nothing if the
fraction is zero. -/
def decimals (places numerator : Nat) : List Char :=
  if numerator = 0 then []
  else '.' :: ((Text.showPadded 10 places numerator).reverse.dropWhile (· == '0')).reverse

/-- A number of nanoseconds in a unit of `10 ^ places` nanoseconds. -/
def inUnit (places nanoseconds : Nat) (unit : String) : String :=
  let scale := Nat.pow 10 places
  String.ofList (Text.showNatural (nanoseconds / scale) ++
    decimals places (nanoseconds % scale)) ++ unit

/-- The text of a duration in the largest unit of which it has at least one. -/
def text (duration : Duration) : String :=
  if 1000000000 ≤ duration.nanoseconds then inUnit 9 duration.nanoseconds "s"
  else if 1000000 ≤ duration.nanoseconds then inUnit 6 duration.nanoseconds "ms"
  else if 1000 ≤ duration.nanoseconds then inUnit 3 duration.nanoseconds "µs"
  else inUnit 0 duration.nanoseconds "ns"

end Duration

end Rendezvous
