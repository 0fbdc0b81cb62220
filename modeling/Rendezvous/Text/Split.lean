/-!
# Splitting a text once

A text is cut at the first occurrence of a separating text, or at the last occurrence of a
separating character. Both cuts drop the separator and nothing else.
-/

namespace Rendezvous

namespace Text

/-- The texts before and after the first occurrence of a nonempty separator. -/
def splitFirst (separator : List Char) : List Char → Option (List Char × List Char)
  | [] => none
  | character :: rest =>
      if separator.isPrefixOf (character :: rest) then
        some ([], (character :: rest).drop separator.length)
      else
        (splitFirst separator rest).map fun parts => (character :: parts.1, parts.2)

/-- The texts before and after the last occurrence of a character. -/
def splitLast (separator : Char) (text : List Char) : Option (List Char × List Char) :=
  (splitFirst [separator] text.reverse).map fun parts => (parts.2.reverse, parts.1.reverse)

end Text

end Rendezvous
