import Rendezvous.Json.Reader

/-!
# Reading JSON records

A record has fields of known names, kinds and order. It is read from an object, whose members may come
in any order and among unknown ones, or from an array, whose elements are the fields in their order.
A field that is not given takes its default; without a default, and when a field is given twice, the
text does not fit the record.
-/

namespace Rendezvous

namespace Json

/-- The kinds of values that a field can hold. -/
inductive FieldKind
  /-- A string. -/
  | text
  /-- An integer between two bounds. -/
  | integer (least greatest : Int)
deriving DecidableEq, Repr

/-- The value of a field. -/
inductive FieldValue
  /-- A string by its characters. -/
  | text (characters : List Char)
  | integer (number : Int)
deriving DecidableEq, Repr

namespace FieldValue

/-- The characters of a string, none of any other value. -/
def characters : FieldValue → List Char
  | .text characters => characters
  | .integer _ => []

/-- The number of an integer, zero for any other value. -/
def number : FieldValue → Int
  | .text _ => 0
  | .integer number => number

end FieldValue

/-- A field of a record. -/
structure Field where
  /-- The name of the field in an object. -/
  name : List Char
  /-- What the field holds. -/
  kind : FieldKind
  /-- The value of a field that is not given. -/
  default : Option FieldValue
deriving DecidableEq, Repr

/-- The fields of a record that have been given so far, with their values. -/
abbrev Given := List (List Char × FieldValue)

/-- A string, and the rest of the text. -/
def readString (text : List Char) : Except Fault (List Char × List Char) :=
  match skipSpace text with
  | '"' :: rest => readStringBody 0 rest
  | text => .error (refuse text)

/-- An integer between two bounds, and the rest of the text. -/
def readInteger (least greatest : Int) (text : List Char) : Except Fault (Int × List Char) :=
  match skipSpace text with
  | [] => .error .unexpectedEnd
  | character :: rest =>
      if opensNumber character then do
        let (numeral, rest) ← readNumeral (character :: rest)
        match numeral.integer? with
        | some number =>
            if least ≤ number ∧ number ≤ greatest then .ok (number, rest) else .error .mismatch
        | none => .error .mismatch
      else .error (refuse (character :: rest))

/-- A value of a kind, and the rest of the text. -/
def FieldKind.read (kind : FieldKind) (text : List Char) :
    Except Fault (FieldValue × List Char) :=
  match kind with
  | .text => do
      let (characters, rest) ← readString text
      .ok (.text characters, rest)
  | .integer least greatest => do
      let (number, rest) ← readInteger least greatest text
      .ok (.integer number, rest)

/-- The value of a field among those given, or its default. -/
def Field.value (given : Given) (field : Field) : Except Fault FieldValue :=
  match given.lookup field.name, field.default with
  | some value, _ => .ok value
  | none, some value => .ok value
  | none, none => .error .mismatch

/-- The values of all fields of a record in their order. -/
def collect (fields : List Field) (given : Given) : Except Fault (List FieldValue) :=
  fields.mapM (Field.value given)

/-- The value of one member of an object, read if its name is that of a field and skipped if not. -/
def readMember (fields : List Field) (given : Given) (name text : List Char) :
    Except Fault (Given × List Char) :=
  match fields.find? fun field => field.name == name with
  | none => do
      let text ← skipColon text
      let text ← skipValue text
      .ok (given, text)
  | some field =>
      if (given.lookup name).isSome then .error .mismatch
      else do
        let text ← skipColon text
        let (value, text) ← field.kind.read text
        .ok ((name, value) :: given, text)

/-- The members of an object from the name of one of them on, and the text from the closing brace
on. -/
def readMembersWithin (fields : List Field) :
    (fuel : Nat) → Given → List Char → Except Fault (Given × List Char)
  | 0, _, _ => .error .malformed
  | fuel + 1, given, text =>
      match skipSpace text with
      | [] => .error .unexpectedEnd
      | character :: rest =>
          if character = '"' then do
            let (name, text) ← readStringBody 0 rest
            let (given, text) ← readMember fields given name text
            match skipSpace text with
            | [] => .error .unexpectedEnd
            | character :: rest =>
                if character = ',' then readMembersWithin fields fuel given rest
                else if character = '\x7d' then .ok (given, rest)
                else .error .malformed
          else .error .malformed

/-- The fields of an object after its opening brace, and the rest of the text. Every member leaves a
shorter text, so that the length of the text bounds the members. -/
def readObject (fields : List Field) (text : List Char) :
    Except Fault (List FieldValue × List Char) := do
  let (given, rest) ← match skipSpace text with
    | [] => .error .unexpectedEnd
    | character :: rest =>
        if character = '\x7d' then .ok ([], rest)
        else readMembersWithin fields (text.length + 1) [] text
  let values ← collect fields given
  .ok (values, rest)

/-- The end of an array all of whose elements have been read. -/
def readArrayEnd (text : List Char) : Except Fault (List Char) :=
  match skipSpace text with
  | [] => .error .unexpectedEnd
  | character :: rest => if character = ']' then .ok rest else .error .malformed

/-- The fields of an array, each with a comma before it unless it is the first, and the rest of the
text. -/
def readElements : (fields : List Field) → (isFirst : Bool) → List Char →
    Except Fault (List FieldValue × List Char)
  | [], _, text => do
      let rest ← readArrayEnd text
      .ok ([], rest)
  | field :: fields, isFirst, text =>
      match skipSpace text with
      | [] => .error .unexpectedEnd
      | character :: rest =>
          if character = ']' then do
            let values ← collect (field :: fields) []
            .ok (values, rest)
          else do
            let text ←
              if isFirst then .ok (character :: rest)
              else if character = ',' then
                match skipSpace rest with
                | [] => .error .unexpectedEnd
                | next :: after => if next = ']' then .error .malformed else .ok (next :: after)
              else .error .malformed
            let (value, text) ← field.kind.read text
            let (values, rest) ← readElements fields false text
            .ok (value :: values, rest)

/-- The values of the fields of a record in their order, and the rest of the text. -/
def readRecord (fields : List Field) (text : List Char) :
    Except Fault (List FieldValue × List Char) :=
  match skipSpace text with
  | '\x7b' :: rest => readObject fields rest
  | '[' :: rest => readElements fields true rest
  | text => .error (refuse text)

/-- What a reader takes from a text of which it leaves nothing but spaces. -/
def readWholeText {α : Type} (reader : List Char → Except Fault (α × List Char))
    (text : List Char) : Except Fault α := do
  let (value, rest) ← reader text
  if (skipSpace rest).isEmpty then .ok value else .error .malformed

end Json

end Rendezvous
