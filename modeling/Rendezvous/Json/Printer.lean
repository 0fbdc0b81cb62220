import Rendezvous.Text.Number

/-!
# Printing JSON

The compact text of strings, integers and objects. In a string, only the quote, the backslash and
the characters below U+0020 are escaped.
-/

namespace Rendezvous

namespace Json

/-- The escape of a character below U+0020 by its code point. -/
def codeEscape (character : Char) : List Char :=
  '\\' :: 'u' :: Text.showPadded 16 4 character.toNat

/-- The characters that stand for a character inside a string. -/
def escape (character : Char) : List Char :=
  if character = '"' then ['\\', '"']
  else if character = '\\' then ['\\', '\\']
  else if character = '\x08' then ['\\', 'b']
  else if character = '\x0c' then ['\\', 'f']
  else if character = '\n' then ['\\', 'n']
  else if character = '\r' then ['\\', 'r']
  else if character = '\t' then ['\\', 't']
  else if character.toNat < 0x20 then codeEscape character
  else [character]

/-- The string with the given characters. -/
def string (characters : List Char) : List Char :=
  '"' :: characters.flatMap escape ++ ['"']

/-- The object with the given names and printed values. -/
def object (members : List (String × List Char)) : List Char :=
  let printed := members.map fun (name, value) => string name.toList ++ ':' :: value
  '\x7b' :: List.intercalate [','] printed ++ ['\x7d']

end Json

end Rendezvous
