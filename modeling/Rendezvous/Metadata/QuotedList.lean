import Rendezvous.Directory
import Rendezvous.Text.Blank
import Rendezvous.Text.Split

/-!
# Quoted lists

A quoted list is a text such as `'name:John', 'age:23'`. Its entries stand between commas, may be
wrapped in a pair of equal quotes, and are cut at their first colon into a name and a value. Blanks
around entries, names and values do not count, empty entries are left out, and the last value of a
name is the one that holds.
-/

namespace Rendezvous

/-- Why transport properties cannot be taken from a header string. -/
inductive HeaderError
  /-- An entry has no colon, or nothing before it. -/
  | malformed (entry : String)
  /-- A requested property is not among the entries. -/
  | missingProperty (name : String)
deriving DecidableEq, Repr

namespace HeaderError

def message : HeaderError → String
  | .malformed entry => "malformed header entry '" ++ entry ++ "'"
  | .missingProperty name =>
      "requested transport property '" ++ name ++ "' is not present in headers"

end HeaderError

namespace QuotedList

/-- The text between two occurrences of a quote that enclose it. -/
def inside? (quote : Char) : List Char → Option (List Char)
  | [] => none
  | character :: rest =>
      if character = quote ∧ rest.getLast? = some quote then some rest.dropLast else none

/-- A trimmed entry without the quotes that enclose it and without blanks inside them. -/
def unquote (entry : List Char) : List Char :=
  match inside? '\'' entry, inside? '"' entry with
  | some inner, _ => Text.trim inner
  | none, some inner => Text.trim inner
  | none, none => entry

/-- The name and the value of an entry without quotes, nothing for an empty entry. -/
def property? (entry : List Char) : Except HeaderError (Option (String × String)) :=
  if entry.isEmpty then .ok none
  else
    match Text.splitFirst [':'] entry with
    | none => .error (.malformed (String.ofList entry))
    | some (name, value) =>
        let name := Text.trim name
        if name.isEmpty then .error (.malformed (String.ofList entry))
        else .ok (some (String.ofList name, String.ofList (Text.trim value)))

/-- The properties with those of one more piece of a list. -/
def addPiece (properties : Directory String String) (piece : List Char) :
    Except HeaderError (Directory String String) := do
  match ← property? (unquote (Text.trim piece)) with
  | none => .ok properties
  | some (name, value) => .ok (properties.put name value)

/-- The properties of a list. -/
def parse (headers : String) : Except HeaderError (Directory String String) :=
  (headers.toList.splitOn ',').foldlM addPiece Directory.empty

def property (properties : Directory String String) (name : String) :
    Except HeaderError String :=
  match properties.find? name with
  | some value => .ok value
  | none => .error (.missingProperty name)

/-- The values of the requested properties in their order. -/
def extract (headers : String) (requested : List String) : Except HeaderError (List String) := do
  let properties ← parse headers
  requested.mapM (property properties)

end QuotedList

end Rendezvous
