import Rendezvous.Text.Number
import Rendezvous.Text.Split

/-!
# Media types

A media type is a type and a subtype with a slash between them, and parameters after semicolons. The
last plus sign of a subtype starts its suffix. `isJson` tells whether a media type names JSON, which
is so if subtype or suffix is `json`.
-/

namespace Rendezvous.Http.MediaType

def isTokenChar (character : Char) : Bool :=
  character.isAlphanum || "!#$%&'*+-.^_|~".toList.contains character || character.toNat == 96

/-- Whether a character can stand in a quoted value. -/
def isQuotedChar (character : Char) : Bool :=
  32 ≤ character.toNat && character.toNat != 127

/-- Where the reading of parameters stands. -/
inductive ParameterState
  /-- Before a parameter. -/
  | start
  | name
  /-- Before the value of a parameter. -/
  | valueStart
  /-- In a value without quotes. -/
  | token
  /-- Right after the quote that opens a value. -/
  | quoteStart
  | quoted
  /-- After the quote that closes a value. -/
  | quoteEnd
deriving DecidableEq, Repr

namespace ParameterState

/-- Where the reading stands after one more character, if it can stand there. -/
def next? (state : ParameterState) (character : Char) : Option ParameterState :=
  match state with
  | .start =>
      if character = ' ' then some .start
      else if isTokenChar character then some .name else none
  | .name =>
      if isTokenChar character then some .name
      else if character = '=' then some .valueStart else none
  | .valueStart =>
      if character = '"' then some .quoteStart
      else if isTokenChar character then some .token else none
  | .token =>
      if isTokenChar character then some .token
      else if character = ';' then some .start else none
  | .quoteStart => if isQuotedChar character then some .quoted else none
  | .quoted =>
      if character = '"' then some .quoteEnd
      else if isQuotedChar character then some .quoted else none
  | .quoteEnd =>
      if character = ';' then some .start
      else if character = ' ' then some .quoteEnd else none

/-- Whether a media type can end where the reading stands. -/
def canEnd : ParameterState → Bool
  | .start | .valueStart | .token | .quoteEnd => true
  | .name | .quoteStart | .quoted => false

end ParameterState

/-- Whether a text is a list of parameters. -/
def areParameters (text : List Char) : Bool :=
  (text.foldlM ParameterState.next? .start).any ParameterState.canEnd

/-- Whether a subtype, or its suffix, is `json`. -/
def namesJson (subtype : List Char) : Bool :=
  match Text.splitLast '+' subtype with
  | some (base, extension) =>
      if base.isEmpty then false
      else Text.sameLetters base "json".toList || Text.sameLetters extension "json".toList
  | none => Text.sameLetters subtype "json".toList

/-- Whether a text is a media type that names JSON. -/
def isJson (text : List Char) : Bool :=
  match text.span isTokenChar with
  | (kind, '/' :: rest) =>
      match rest.span isTokenChar with
      | (subtype, parameters) =>
          Text.sameLetters kind "application".toList && namesJson subtype &&
            match parameters with
            | [] => true
            | ';' :: list => areParameters list
            | _ => false
  | _ => false

end Rendezvous.Http.MediaType
