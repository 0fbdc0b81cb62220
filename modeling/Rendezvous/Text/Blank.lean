/-!
# Blank characters

The characters with the Unicode property White_Space, and the trimming of a text by them.
-/

namespace Rendezvous

namespace Text

/-- The inclusive ranges of code points that have the property White_Space. -/
def blankRanges : List (Nat × Nat) :=
  [(0x0009, 0x000D), (0x0020, 0x0020), (0x0085, 0x0085), (0x00A0, 0x00A0), (0x1680, 0x1680),
    (0x2000, 0x200A), (0x2028, 0x2029), (0x202F, 0x202F), (0x205F, 0x205F), (0x3000, 0x3000)]

/-- Whether a character has the property White_Space. -/
def isBlank (character : Char) : Bool :=
  blankRanges.any fun range =>
    decide (range.1 ≤ character.toNat) && decide (character.toNat ≤ range.2)

/-- A text without its leading blank characters. -/
def trimStart (text : List Char) : List Char :=
  text.dropWhile isBlank

/-- A text without its trailing blank characters. -/
def trimEnd (text : List Char) : List Char :=
  (text.reverse.dropWhile isBlank).reverse

/-- A text without the blank characters at its two ends. -/
def trim (text : List Char) : List Char :=
  trimEnd (trimStart text)

/-- Whether a text has blank characters only. -/
def allBlank (text : List Char) : Bool :=
  text.all isBlank

end Text

end Rendezvous
