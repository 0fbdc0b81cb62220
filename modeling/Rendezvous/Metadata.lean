import Rendezvous.CorrelationId
import Rendezvous.Directory

/-!
# Metadata of calls

The header fields that come with a call. Names are kept in small letters and in the order of their
first appearance, and the values of a name in the order in which they came. The size of metadata is
measured as HTTP/2 measures a header list, and its rendering is a quoted list of those fields that
such a list can hold.
-/

namespace Rendezvous

/-- The value of a header field, which can hold any bytes. -/
structure HeaderValue where
  bytes : List UInt8
deriving DecidableEq, Repr

namespace HeaderValue

/-- The value with the bytes of a text. -/
def ofString (text : String) : HeaderValue :=
  ⟨text.toUTF8.toList⟩

/-- Whether a byte is visible ASCII, a blank or a tab. -/
def isVisible (byte : UInt8) : Bool :=
  byte == 9 || (32 ≤ byte && byte ≤ 126)

/-- The characters of a value that is visible ASCII. -/
def visible? (value : HeaderValue) : Option (List Char) :=
  if value.bytes.all isVisible then
    some (value.bytes.map fun byte => Char.ofNat byte.toNat)
  else
    none

end HeaderValue

/-- The header fields of a call: the values of each name in the order in which they came. -/
abbrev Metadata := Directory String (List HeaderValue)

namespace Metadata

/-- What every field adds to the size of metadata besides its name and its value. -/
def entryOverhead : Nat :=
  32

/-- The metadata with a field after those that are there already. -/
def append (metadata : Metadata) (name : String) (value : HeaderValue) : Metadata :=
  let key := String.ofList (name.toList.map Char.toLower)
  metadata.put key ((metadata.find? key).getD [] ++ [value])

/-- The metadata with the given fields, appended in their order. -/
def ofFields (fields : List (String × HeaderValue)) : Metadata :=
  fields.foldl (fun metadata field => metadata.append field.1 field.2) Directory.empty

/-- The fields of metadata, all values of a name at the place of the name. -/
def fields (metadata : Metadata) : List (String × HeaderValue) :=
  metadata.entries.flatMap fun (name, values) => values.map fun value => (name, value)

/-- The first value of a name. -/
def first? (metadata : Metadata) (name : String) : Option HeaderValue :=
  (metadata.find? name).bind List.head?

def fieldSize (field : String × HeaderValue) : Nat :=
  field.1.utf8ByteSize + field.2.bytes.length + entryOverhead

/-- The size of metadata: every field counts with its name, its value and an overhead. -/
def size (metadata : Metadata) : Nat :=
  metadata.fields.foldr (fun field total => fieldSize field + total) 0

/-- A name and a value as an entry of a quoted list. -/
def quotedEntry (name value : List Char) : List Char :=
  '\'' :: name ++ ':' :: value ++ ['\'']

/-- The entry of a field, unless a quoted list cannot hold its value. -/
def renderField (field : String × HeaderValue) : Option (List Char) :=
  match field.2.visible? with
  | some value => if ',' ∈ value then none else some (quotedEntry field.1.toList value)
  | none => none

/-- Entries with a comma and a blank between them. -/
def joinEntries (entries : List (List Char)) : List Char :=
  List.intercalate [',', ' '] entries

/-- The fields of metadata as the entries of a quoted list. -/
def renderedFields (metadata : Metadata) : List (List Char) :=
  metadata.fields.filterMap renderField

/-- The quoted list of the fields of metadata. -/
def render (metadata : Metadata) : String :=
  String.ofList (joinEntries metadata.renderedFields)

/-- The quoted list of the fields of metadata with the correlation id of the call as last entry. -/
def headerString (metadata : Metadata) (id : CorrelationId) : String :=
  String.ofList (joinEntries (metadata.renderedFields ++
    [quotedEntry CorrelationId.propertyName.toList id.characters]))

end Metadata

end Rendezvous
