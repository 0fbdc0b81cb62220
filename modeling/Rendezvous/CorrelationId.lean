import Rendezvous.Text.Blank
import Rendezvous.Text.Number

/-!
# Correlation ids

A correlation id ties a call to the response that is produced for it elsewhere. It is a number of
128 bits, written with 32 hexadecimal digits in five groups. Four spellings are read: the digits
alone, the five groups, the five groups in braces, and the five groups after `urn:uuid:`, each with
letters of either case.
-/

namespace Rendezvous

/-- The tie between a call and its response. -/
structure CorrelationId where
  /-- The number that the text denotes. -/
  bits : BitVec 128
deriving DecidableEq, Repr

namespace CorrelationId

/-- Ids are ordered as their numbers, which is the order of their texts. -/
instance : LE CorrelationId :=
  ⟨fun left right => left.bits ≤ right.bits⟩

instance : LT CorrelationId :=
  ⟨fun left right => left.bits < right.bits⟩

instance (left right : CorrelationId) : Decidable (left ≤ right) :=
  inferInstanceAs (Decidable (left.bits ≤ right.bits))

instance (left right : CorrelationId) : Decidable (left < right) :=
  inferInstanceAs (Decidable (left.bits < right.bits))

/-- The name of the transport property that carries the id of a call. -/
def propertyName : String :=
  "messageId"

/-- The 32 hexadecimal digits of an id. -/
def digits (id : CorrelationId) : List Char :=
  Text.showPadded 16 32 id.bits.toNat

/-- A run of 32 characters in groups of 8, 4, 4, 4 and 12 with hyphens between them. -/
def hyphenate (digits : List Char) : List Char :=
  digits.take 8 ++ '-' :: (digits.drop 8).take 4 ++ '-' :: (digits.drop 12).take 4 ++
    '-' :: (digits.drop 16).take 4 ++ '-' :: digits.drop 20

/-- The characters of an id: small hexadecimal digits in five groups. -/
def characters (id : CorrelationId) : List Char :=
  hyphenate id.digits

/-- The text of an id: small hexadecimal digits in five groups. -/
def text (id : CorrelationId) : String :=
  String.ofList id.characters

/-- The id with the given random bits, marked as one that was made at random. -/
def ofRandom (bits : BitVec 128) : CorrelationId :=
  ⟨(bits &&& ~~~(0xf#128 <<< 76) &&& ~~~(0x3#128 <<< 62)) ||| (0x4#128 <<< 76) |||
    (0x2#128 <<< 62)⟩

/-- The id with the given 32 hexadecimal digits. -/
def ofDigits? (digits : List Char) : Option CorrelationId :=
  if digits.length = 32 ∧ digits.all (Text.isDigitIn 16) then
    some ⟨BitVec.ofNat 128 (Text.ofDigits 16 digits)⟩
  else
    none

/-- The id that five groups with hyphens between them denote. -/
def ofGroups? (text : List Char) : Option CorrelationId :=
  let digits := text.filter (· ≠ '-')
  if hyphenate digits = text then ofDigits? digits else none

/-- The text between an opening and a closing brace. -/
def inBraces? : List Char → Option (List Char)
  | '\x7b' :: rest => if rest.getLast? = some '\x7d' then some rest.dropLast else none
  | _ => none

def afterUrn? (text : List Char) : Option (List Char) :=
  if "urn:uuid:".toList.isPrefixOf text then some (text.drop 9) else none

/-- The id that one of the four spellings denotes. -/
def parseExact? (text : List Char) : Option CorrelationId :=
  match inBraces? text, afterUrn? text with
  | some inner, _ => ofGroups? inner
  | none, some inner => ofGroups? inner
  | none, none => if text.length = 32 then ofDigits? text else ofGroups? text

/-- The id that a text denotes; blanks around it do not count. -/
def parse? (text : String) : Option CorrelationId :=
  parseExact? (Text.trim text.toList)

end CorrelationId

end Rendezvous
