import Rendezvous.Text.Number

/-!
# Network addresses

IPv4 and IPv6 addresses, addresses with a port, and the text of both. The text of an IPv6 address
writes its first longest run of two or more zero groups as `::`, its letters are small, and an IPv4
address that is mapped into IPv6 keeps its dotted form.
-/

namespace Rendezvous

/-- An address of a network interface. -/
inductive IpAddress
  /-- An IPv4 address by its four octets. -/
  | v4 (first second third fourth : UInt8)
  /-- An IPv6 address by its eight groups. -/
  | v6 (groups : Vector UInt16 8)
deriving DecidableEq, Repr

namespace IpAddress

/-- The IPv4 address that stands for every interface. -/
def unspecified : IpAddress :=
  .v4 0 0 0 0

/-- The IPv4 address of the host itself. -/
def localhost : IpAddress :=
  .v4 127 0 0 1

/-- Four octets with points between them. -/
def showOctets (first second third fourth : Nat) : List Char :=
  Text.showNatural first ++ '.' :: Text.showNatural second ++ '.' :: Text.showNatural third ++
    '.' :: Text.showNatural fourth

/-- Groups in hexadecimal with colons between them. -/
def showGroups (groups : List UInt16) : List Char :=
  List.intercalate [':'] (groups.map fun group => Nat.toDigits 16 group.toNat)

/-- How many of the first groups are zero. -/
def leadingZeros (groups : List UInt16) : Nat :=
  (groups.takeWhile (· == 0)).length

/-- Start and length of the first longest run of zero groups. -/
def longestZeroRun (groups : List UInt16) : Nat × Nat :=
  (List.range groups.length).foldl (fun longest start =>
    let length := leadingZeros (groups.drop start)
    if longest.2 < length then (start, length) else longest) (0, 0)

/-- The octets of an IPv4 address that eight groups carry in mapped form. -/
def mappedOctets? : List UInt16 → Option (Nat × Nat × Nat × Nat)
  | [0, 0, 0, 0, 0, 0xffff, high, low] =>
      some (high.toNat / 256, high.toNat % 256, low.toNat / 256, low.toNat % 256)
  | _ => none

/-- The text of an IPv6 address. -/
def showV6 (groups : List UInt16) : List Char :=
  match mappedOctets? groups with
  | some (first, second, third, fourth) =>
      ':' :: ':' :: 'f' :: 'f' :: 'f' :: 'f' :: ':' :: showOctets first second third fourth
  | none =>
      let (start, length) := longestZeroRun groups
      if 1 < length then
        showGroups (groups.take start) ++ ':' :: ':' :: showGroups (groups.drop (start + length))
      else
        showGroups groups

/-- The characters of the text of an address. -/
def characters : IpAddress → List Char
  | .v4 first second third fourth =>
      showOctets first.toNat second.toNat third.toNat fourth.toNat
  | .v6 groups => showV6 groups.toList

def text (address : IpAddress) : String :=
  String.ofList address.characters

def isVersion4 : IpAddress → Bool
  | .v4 .. => true
  | .v6 _ => false

/-- Whether an address reaches the host itself only. -/
def isLoopback : IpAddress → Bool
  | .v4 first _ _ _ => first == 127
  | .v6 groups => groups.toList == [0, 0, 0, 0, 0, 0, 0, 1]

/-- Whether an address stands for every interface. -/
def isUnspecified : IpAddress → Bool
  | .v4 first second third fourth => first == 0 && second == 0 && third == 0 && fourth == 0
  | .v6 groups => groups.toList.all (· == 0)

end IpAddress

/-- An address with a port. -/
structure SocketAddress where
  /-- The interface. -/
  host : IpAddress
  port : UInt16
deriving DecidableEq, Repr

namespace SocketAddress

/-- The characters of host and port, where an IPv6 host stands in brackets. -/
def characters (address : SocketAddress) : List Char :=
  let host := match address.host with
    | .v4 .. => address.host.characters
    | .v6 _ => '[' :: address.host.characters ++ [']']
  host ++ ':' :: Text.showNatural address.port.toNat

/-- The text of host and port, where an IPv6 host stands in brackets. -/
def text (address : SocketAddress) : String :=
  String.ofList address.characters

end SocketAddress

end Rendezvous
