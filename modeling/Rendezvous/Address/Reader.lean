import Rendezvous.Address

/-!
# Reading network addresses

The accepted texts of an IPv4 address are four decimal numbers up to 255 without leading zeros. Those
of an IPv6 address are groups of one to four hexadecimal digits with at most one `::`, which stands
for one or more zero groups, and with an IPv4 address in place of the last two groups if wished.
Each reader takes what it can from the front of a text and leaves the rest.
-/

namespace Rendezvous

namespace IpAddress

/-- A number of at most `places` digits in the given base, and the rest of the text. -/
def readGroup (base places : Nat) (leadingZero : Bool) (text : List Char) :
    Option (Nat × List Char) :=
  let digits := text.takeWhile (Text.isDigitIn base)
  if digits.isEmpty || places < digits.length then none
  else if !leadingZero && digits.head? == some '0' && 1 < digits.length then none
  else some (Text.ofDigits base digits, text.dropWhile (Text.isDigitIn base))

/-- A decimal number up to 255 without leading zeros, and the rest of the text. -/
def readOctet (text : List Char) : Option (UInt8 × List Char) :=
  match readGroup 10 3 false text with
  | some (number, rest) => if number < 256 then some (UInt8.ofNat number, rest) else none
  | none => none

/-- A group of an IPv6 address, and the rest of the text. -/
def readHextet (text : List Char) : Option (UInt16 × List Char) :=
  (readGroup 16 4 true text).map fun (number, rest) => (UInt16.ofNat number, rest)

/-- The rest of a text that begins with the given character. -/
def afterCharacter (character : Char) : List Char → Option (List Char)
  | [] => none
  | first :: rest => if first = character then some rest else none

/-- Four octets with points between them, and the rest of the text. -/
def readOctets (text : List Char) : Option ((UInt8 × UInt8 × UInt8 × UInt8) × List Char) := do
  let (first, text) ← readOctet text
  let text ← afterCharacter '.' text
  let (second, text) ← readOctet text
  let text ← afterCharacter '.' text
  let (third, text) ← readOctet text
  let text ← afterCharacter '.' text
  let (fourth, text) ← readOctet text
  some ((first, second, third, fourth), text)

/-- The rest of a text after the colon that stands before every group but the first. -/
def afterColon (isFirst : Bool) (text : List Char) : Option (List Char) :=
  if isFirst then some text else afterCharacter ':' text

/-- Two groups made of four octets. -/
def groupsOfOctets (octets : UInt8 × UInt8 × UInt8 × UInt8) : List UInt16 :=
  let (first, second, third, fourth) := octets
  [first.toUInt16 * 256 + second.toUInt16, third.toUInt16 * 256 + fourth.toUInt16]

/-- Up to `limit` groups with colons between them, whether an IPv4 address ended them, and the rest
of the text. -/
def readGroups : (limit : Nat) → (isFirst : Bool) → List Char → List UInt16 × Bool × List Char
  | 0, _, text => ([], false, text)
  | limit + 1, isFirst, text =>
      let octets := if limit = 0 then none else afterColon isFirst text >>= readOctets
      match octets with
      | some (octets, rest) => (groupsOfOctets octets, true, rest)
      | none =>
          match afterColon isFirst text >>= readHextet with
          | none => ([], false, text)
          | some (group, rest) =>
              let (groups, ended, rest) := readGroups limit false rest
              (group :: groups, ended, rest)

/-- The IPv6 address with the given groups, if they are eight. -/
def ofGroups? (groups : List UInt16) : Option IpAddress :=
  if count : groups.length = 8 then some (.v6 ⟨groups.toArray, by simp [count]⟩) else none

/-- An IPv6 address, and the rest of the text. -/
def readV6 (text : List Char) : Option (IpAddress × List Char) :=
  let (front, ended, rest) := readGroups 8 true text
  if front.length = 8 then
    (ofGroups? front).map fun address => (address, rest)
  else if ended then
    none
  else do
    let rest ← afterCharacter ':' rest
    let rest ← afterCharacter ':' rest
    let (back, _, rest) := readGroups (7 - front.length) true rest
    let zeros := List.replicate (8 - front.length - back.length) 0
    let address ← ofGroups? (front ++ zeros ++ back)
    some (address, rest)

/-- An IPv4 address, and the rest of the text. -/
def readV4 (text : List Char) : Option (IpAddress × List Char) :=
  (readOctets text).map fun ((first, second, third, fourth), rest) =>
    (.v4 first second third fourth, rest)

/-- An address of either kind, and the rest of the text. -/
def read (text : List Char) : Option (IpAddress × List Char) :=
  match readV4 text with
  | some result => some result
  | none => readV6 text

/-- The address that a whole text denotes. -/
def parse? (text : List Char) : Option IpAddress :=
  match read text with
  | some (address, []) => some address
  | _ => none

end IpAddress

namespace SocketAddress

/-- The address with a port that a whole text denotes; an IPv6 host stands in brackets. -/
def parse? (text : List Char) : Option SocketAddress := do
  let (host, rest) ← match text with
    | '[' :: rest => do
        let (host, rest) ← IpAddress.readV6 rest
        let rest ← IpAddress.afterCharacter ']' rest
        some (host, rest)
    | _ => IpAddress.readV4 text
  let port ← IpAddress.afterCharacter ':' rest
  if port.isEmpty || !port.all (Text.isDigitIn 10) then none
  else
    let number ← Text.readNatural 65535 port
    some ⟨host, UInt16.ofNat number⟩

end SocketAddress

end Rendezvous
