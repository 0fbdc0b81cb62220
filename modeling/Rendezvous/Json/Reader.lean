import Rendezvous.Json.Magnitude
import Rendezvous.Text.Number

/-!
# Reading JSON

Readers for the lexical parts of a JSON text. A reader takes its part from the front of the text and
leaves the rest, or reports the first fault from the left: the text ends early, it is not JSON, or a
well-formed value is not of the wanted kind. Values that nobody asked for are skipped: they are
checked as JSON, but nothing is asked of the numbers and the characters that they denote.
-/

namespace Rendezvous

namespace Json

/-- The first fault from the left in a text. -/
inductive Fault
  /-- The text ends where it has to go on. -/
  | unexpectedEnd
  /-- The text is not JSON. -/
  | malformed
  /-- A value is not of the wanted kind. -/
  | mismatch
deriving DecidableEq, Repr

/-- Whether a character may stand between the parts of a JSON text. -/
def isSpace (character : Char) : Bool :=
  character == ' ' || character == '\n' || character == '\t' || character == '\r'

/-- A text without its leading spaces. -/
def skipSpace (text : List Char) : List Char :=
  text.dropWhile isSpace

/-! ## Strings -/

/-- The number of bytes of a text in UTF-8. -/
def byteCount (text : List Char) : Nat :=
  text.foldl (fun count character => count + character.utf8Size) 0

/-- The code unit that the four hexadecimal digits at the front of a text denote. -/
def readCodeUnit (text : List Char) : Except Fault Nat :=
  let digits := text.take 4
  if digits.length = 4 && digits.all (Text.isDigitIn 16) then .ok (Text.ofDigits 16 digits)
  else if byteCount text < 4 then .error .unexpectedEnd
  else .error .malformed

/-- Whether a code unit opens a pair of units. -/
def isHighSurrogate (unit : Nat) : Bool :=
  0xD800 ≤ unit && unit ≤ 0xDBFF

/-- Whether a code unit closes a pair of units. -/
def isLowSurrogate (unit : Nat) : Bool :=
  0xDC00 ≤ unit && unit ≤ 0xDFFF

/-- The character of a pair of code units. -/
def ofSurrogates (high low : Nat) : Char :=
  Char.ofNat ((high - 0xD800) * 0x400 + (low - 0xDC00) + 0x10000)

/-- The second code unit of a pair, after the first. -/
def readLowSurrogate : List Char → Except Fault Nat
  | [] => .error .unexpectedEnd
  | ['\\'] => .error .unexpectedEnd
  | '\\' :: 'u' :: text => do
      let low ← readCodeUnit text
      if isLowSurrogate low then .ok low else .error .malformed
  | _ => .error .malformed

/-- The character that an escape denotes, and how many characters the escape takes after its
backslash. -/
def readEscape : List Char → Except Fault (Char × Nat)
  | [] => .error .unexpectedEnd
  | '"' :: _ => .ok ('"', 1)
  | '\\' :: _ => .ok ('\\', 1)
  | '/' :: _ => .ok ('/', 1)
  | 'b' :: _ => .ok ('\x08', 1)
  | 'f' :: _ => .ok ('\x0c', 1)
  | 'n' :: _ => .ok ('\n', 1)
  | 'r' :: _ => .ok ('\r', 1)
  | 't' :: _ => .ok ('\t', 1)
  | 'u' :: text => do
      let unit ← readCodeUnit text
      if isLowSurrogate unit then .error .malformed
      else if isHighSurrogate unit then
        let low ← readLowSurrogate (text.drop 4)
        .ok (ofSurrogates unit low, 11)
      else .ok (Char.ofNat unit, 5)
  | _ => .error .malformed

/-- The characters of a string up to its closing quote, and the rest of the text. The first `pending`
characters belong to an escape that has been read already. -/
def readStringBody : (pending : Nat) → List Char → Except Fault (List Char × List Char)
  | _, [] => .error .unexpectedEnd
  | pending + 1, _ :: rest => readStringBody pending rest
  | 0, character :: rest =>
      if character = '"' then .ok ([], rest)
      else if character = '\\' then do
        let (escaped, width) ← readEscape rest
        let (others, after) ← readStringBody width rest
        .ok (escaped :: others, after)
      else if character.toNat < 0x20 then .error .malformed
      else do
        let (others, after) ← readStringBody 0 rest
        .ok (character :: others, after)

/-- How many characters an escape takes after its backslash, if it has the form of one. -/
def skipEscape : List Char → Except Fault Nat
  | [] => .error .unexpectedEnd
  | 'u' :: text => do
      let _ ← readCodeUnit text
      .ok 5
  | character :: _ =>
      if character ∈ ['"', '\\', '/', 'b', 'f', 'n', 'r', 't'] then .ok 1 else .error .malformed

/-- The text after the closing quote of a string. -/
def skipStringBody : (pending : Nat) → List Char → Except Fault (List Char)
  | _, [] => .error .unexpectedEnd
  | pending + 1, _ :: rest => skipStringBody pending rest
  | 0, character :: rest =>
      if character = '"' then .ok rest
      else if character = '\\' then do
        let width ← skipEscape rest
        skipStringBody width rest
      else if character.toNat < 0x20 then .error .malformed
      else skipStringBody 0 rest

/-! ## Words -/

/-- The text after the remaining letters of a word. -/
def skipWord : List Char → List Char → Except Fault (List Char)
  | [], text => .ok text
  | _ :: _, [] => .error .unexpectedEnd
  | letter :: letters, character :: rest =>
      if character = letter then skipWord letters rest else .error .malformed

/-! ## Numbers -/

/-- The parts of a number as it is written. -/
structure Numeral where
  /-- Whether a minus sign stands before the number. -/
  negative : Bool
  /-- The digits before the point. -/
  whole : List Char
  /-- The digits after the point, if there is one. -/
  fraction : Option (List Char)
  /-- The exponent, if there is one. -/
  exponent : Option Int
deriving DecidableEq, Repr

namespace Numeral

/-- The integer that a numeral denotes, if it is written as one. -/
def integer? (numeral : Numeral) : Option Int :=
  match numeral.fraction, numeral.exponent with
  | none, none =>
      let number := Text.ofDigits 10 numeral.whole
      if numeral.negative then
        if number = 0 then none else some (-(number : Int))
      else some number
  | _, _ => none

/-- The digits that are kept of a run of digits while the number they extend fits in 64 bits, with
the count of the kept ones. -/
def accumulate : (significand : Nat) → List Char → Nat × Nat
  | significand, [] => (significand, 0)
  | significand, digit :: digits =>
      let extended := significand * 10 + (Text.digitIn 10 digit).getD 0
      if UInt64.size ≤ extended then (significand, 0)
      else
        let (result, kept) := accumulate extended digits
        (result, kept + 1)

/-- Whether a numeral denotes a number that has no finite binary64 approximation. -/
def tooLarge (numeral : Numeral) : Bool :=
  let (significand, kept) := accumulate 0 numeral.whole
  let dropped := numeral.whole.length - kept
  let (significand, decimals) := accumulate significand (numeral.fraction.getD [])
  exceedsDouble significand ((dropped : Int) - decimals + numeral.exponent.getD 0)

end Numeral

/-- At least one digit, and the rest of the text. -/
def readDigits (text : List Char) : Except Fault (List Char × List Char) :=
  match text.takeWhile (Text.isDigitIn 10), text with
  | [], [] => .error .unexpectedEnd
  | [], _ :: _ => .error .malformed
  | digits, _ => .ok (digits, text.dropWhile (Text.isDigitIn 10))

/-- The digits before the point, without a needless zero in front, and the rest of the text. -/
def readWhole (text : List Char) : Except Fault (List Char × List Char) := do
  let (digits, rest) ← readDigits text
  match digits with
  | '0' :: _ :: _ => .error .malformed
  | _ => .ok (digits, rest)

/-- The digits after the point if one follows, and the rest of the text. -/
def readFraction : List Char → Except Fault (Option (List Char) × List Char)
  | '.' :: text => do
      let (digits, rest) ← readDigits text
      .ok (some digits, rest)
  | text => .ok (none, text)

/-- Whether an exponent is negative, by its sign, and the text after the sign. -/
def readSign : List Char → Bool × List Char
  | '+' :: text => (false, text)
  | '-' :: text => (true, text)
  | text => (false, text)

def opensExponent (character : Char) : Bool :=
  character == 'e' || character == 'E'

/-- The exponent if one follows, and the rest of the text. -/
def readExponent : List Char → Except Fault (Option Int × List Char)
  | [] => .ok (none, [])
  | character :: text =>
      if opensExponent character then do
        let (negative, text) := readSign text
        let (digits, rest) ← readDigits text
        let size : Int := Text.ofDigits 10 digits
        .ok (some (if negative then -size else size), rest)
      else .ok (none, character :: text)

/-- A number after its sign, and the rest of the text. A number beyond every finite value is not
accepted. -/
def readUnsigned (negative : Bool) (text : List Char) : Except Fault (Numeral × List Char) := do
  let (whole, rest) ← readWhole text
  let (fraction, rest) ← readFraction rest
  let (exponent, rest) ← readExponent rest
  let numeral : Numeral := ⟨negative, whole, fraction, exponent⟩
  if numeral.tooLarge then .error .malformed else .ok (numeral, rest)

/-- A number, and the rest of the text. -/
def readNumeral : List Char → Except Fault (Numeral × List Char)
  | '-' :: text => readUnsigned true text
  | text => readUnsigned false text

/-- The fault of a number that is skipped: every fault in it makes the text malformed. -/
def skipFault {α : Type} : Except Fault α → Except Fault α
  | .ok result => .ok result
  | .error _ => .error .malformed

/-- The text after a number. -/
def skipNumber (text : List Char) : Except Fault (List Char) := do
  let (_, text) := match text with
    | '-' :: rest => (true, rest)
    | _ => (false, text)
  let (_, text) ← skipFault (readWhole text)
  let (_, text) ← skipFault (readFraction text)
  let (_, text) ← skipFault (readExponent text)
  .ok text

/-! ## Whole values -/

def opensNumber (character : Char) : Bool :=
  character == '-' || Text.isDigitIn 10 character

/-- The text after the colon between a name and its value. -/
def skipColon (text : List Char) : Except Fault (List Char) :=
  match skipSpace text with
  | [] => .error .unexpectedEnd
  | character :: rest => if character = ':' then .ok rest else .error .malformed

mutual

/-- The text after a value of any kind. -/
def skipValueWithin : (fuel : Nat) → List Char → Except Fault (List Char)
  | 0, _ => .error .malformed
  | fuel + 1, text =>
      match skipSpace text with
      | [] => .error .unexpectedEnd
      | character :: rest =>
          if character = '"' then skipStringBody 0 rest
          else if opensNumber character then skipNumber (character :: rest)
          else if character = 'n' then skipWord "ull".toList rest
          else if character = 't' then skipWord "rue".toList rest
          else if character = 'f' then skipWord "alse".toList rest
          else if character = '[' then
            match skipSpace rest with
            | [] => .error .unexpectedEnd
            | next :: after => if next = ']' then .ok after else skipElementsWithin fuel rest
          else if character = '\x7b' then
            match skipSpace rest with
            | [] => .error .unexpectedEnd
            | next :: after => if next = '\x7d' then .ok after else skipMembersWithin fuel rest
          else .error .malformed

/-- The text after the elements of an array and its closing bracket. -/
def skipElementsWithin : (fuel : Nat) → List Char → Except Fault (List Char)
  | 0, _ => .error .malformed
  | fuel + 1, text => do
      let text ← skipValueWithin fuel text
      match skipSpace text with
      | [] => .error .unexpectedEnd
      | character :: rest =>
          if character = ',' then skipElementsWithin fuel rest
          else if character = ']' then .ok rest
          else .error .malformed

/-- The text after the members of an object and its closing brace. -/
def skipMembersWithin : (fuel : Nat) → List Char → Except Fault (List Char)
  | 0, _ => .error .malformed
  | fuel + 1, text =>
      match skipSpace text with
      | [] => .error .unexpectedEnd
      | character :: rest =>
          if character = '"' then do
            let text ← skipStringBody 0 rest
            let text ← skipColon text
            let text ← skipValueWithin fuel text
            match skipSpace text with
            | [] => .error .unexpectedEnd
            | character :: rest =>
                if character = ',' then skipMembersWithin fuel rest
                else if character = '\x7d' then .ok rest
                else .error .malformed
          else .error .malformed

end

/-- The text after a value of any kind. Every step into a value leaves a shorter text, so that the
length of the text bounds the steps. -/
def skipValue (text : List Char) : Except Fault (List Char) :=
  skipValueWithin (2 * text.length + 2) text

/-- The fault of a value that is not of the wanted kind, if a value stands there at all. The text
begins with the value. -/
def refuse : List Char → Fault
  | [] => .unexpectedEnd
  | character :: rest =>
      let ofRest {α : Type} (result : Except Fault α) : Fault := match result with
        | .ok _ => .mismatch
        | .error fault => fault
      if character = '"' then ofRest (readStringBody 0 rest)
      else if opensNumber character then ofRest (readNumeral (character :: rest))
      else if character = 'n' then ofRest (skipWord "ull".toList rest)
      else if character = 't' then ofRest (skipWord "rue".toList rest)
      else if character = 'f' then ofRest (skipWord "alse".toList rest)
      else if character = '[' || character = '\x7b' then .mismatch
      else .malformed

end Json

end Rendezvous
