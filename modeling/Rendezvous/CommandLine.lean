import Rendezvous.Directory
import Rendezvous.Text.Number

/-!
# The command line of the node

The node takes four options, each at most once and each with a value, and a request for help. Options
are read from left to right, and the first thing that is wrong, or the request for help, decides. The
value of an option follows it as the next argument, which then must not look like an option, or is
attached to it: after an equals sign, or right after a short name.
-/

namespace Rendezvous.CommandLine

/-- An option of the node. -/
inductive Switch
  /-- The address of the endpoint. -/
  | url
  /-- The name under which responses find the source. -/
  | sourceId
  /-- How long a call waits for its response, in milliseconds. -/
  | serviceTimeout
  /-- How long each phase of a shutdown may last, in seconds. -/
  | shutdownWaitingTime
deriving DecidableEq, Repr

namespace Switch

def all : List Switch :=
  [.url, .sourceId, .serviceTimeout, .shutdownWaitingTime]

def longName : Switch → String
  | .url => "url"
  | .sourceId => "source-id"
  | .serviceTimeout => "service-timeout"
  | .shutdownWaitingTime => "shutdown-waiting-time"

def shortName? : Switch → Option Char
  | .url => some 'u'
  | .sourceId => some 's'
  | .serviceTimeout => none
  | .shutdownWaitingTime => none

/-- Whether the value of an option is a number. -/
def isNumeric : Switch → Bool
  | .url => false
  | .sourceId => false
  | .serviceTimeout => true
  | .shutdownWaitingTime => true

/-- The value of an option that is not given. -/
def defaultValue : Switch → String
  | .url => "grpc://0.0.0.0:8888"
  | .sourceId => "passthrough"
  | .serviceTimeout => "10000"
  | .shutdownWaitingTime => "5"

/-- What an option is for. -/
def purpose : Switch → String
  | .url => "Endpoint URL, grpc://<host>:<port>[/EventService/process]"
  | .sourceId => "Source identifier used to route responses"
  | .serviceTimeout => "Response timeout in milliseconds"
  | .shutdownWaitingTime => "Shutdown grace period in seconds"

end Switch

/-- Why a command line is refused. -/
inductive Misuse
  /-- There is no such option, or an argument that belongs to none. -/
  | unexpected (argument : String)
  | missingValue (option : Switch)
  /-- An option is given more than once. -/
  | repeated (option : Switch)
  /-- The value of an option is not a number in range. -/
  | invalidValue (option : Switch) (value : String)
deriving DecidableEq, Repr

namespace Misuse

def message : Misuse → String
  | .unexpected argument => "unexpected argument '" ++ argument ++ "'"
  | .missingValue option => "a value is required for '--" ++ option.longName ++ "'"
  | .repeated option => "'--" ++ option.longName ++ "' cannot be used multiple times"
  | .invalidValue option value =>
      "invalid value '" ++ value ++ "' for '--" ++ option.longName ++ "'"

end Misuse

/-- The values of the options that are given. -/
abbrev Values := Directory Switch String

namespace Values

/-- The value of an option, given or not. -/
def text (values : Values) (option : Switch) : String :=
  (values.find? option).getD option.defaultValue

/-- The number that a text denotes as the value of a numeric option. -/
def number? (text : String) : Option Nat :=
  Text.readNatural (UInt64.size - 1) text.toList

/-- The number that is the value of an option, given or not. -/
def number (values : Values) (option : Switch) : UInt64 :=
  UInt64.ofNat ((number? (values.text option)).getD 0)

/-- The values with one more. -/
def supply (values : Values) (option : Switch) (value : String) : Except Misuse Values :=
  if values.contains option then .error (.repeated option)
  else if option.isNumeric && (number? value).isNone then .error (.invalidValue option value)
  else .ok (values.put option value)

end Values

/-- What one argument is. -/
inductive Argument
  | help
  /-- An option, perhaps with its value attached. -/
  | option (option : Switch) (attached : Option String)
  | endOfOptions
  /-- Anything else. -/
  | other
deriving DecidableEq, Repr

namespace Argument

def ofLongName? (name : List Char) : Option Switch :=
  Switch.all.find? fun switch => switch.longName.toList == name

def ofShortName? (name : Char) : Option Switch :=
  Switch.all.find? fun switch => switch.shortName? == some name

/-- An argument after two hyphens. -/
def readLong (text : List Char) : Argument :=
  let name := text.takeWhile (· ≠ '=')
  let attached := (text.dropWhile (· ≠ '=')).tail?.map String.ofList
  match ofLongName? name with
  | some switch => .option switch attached
  | none => if name = "help".toList ∧ attached = none then .help else .other

/-- An argument after one hyphen, given by its first character and the rest. -/
def readShort (name : Char) (rest : List Char) : Argument :=
  match ofShortName? name with
  | some switch =>
      match rest with
      | [] => .option switch none
      | '=' :: value => .option switch (some (String.ofList value))
      | value => .option switch (some (String.ofList value))
  | none => if name = 'h' then .help else .other

/-- What an argument is. -/
def read (argument : String) : Argument :=
  match argument.toList with
  | ['-', '-'] => .endOfOptions
  | '-' :: '-' :: text => readLong text
  | '-' :: name :: rest => readShort name rest
  | _ => .other

/-- Whether an argument looks like an option and so cannot be a value. -/
def looksLikeOption (argument : String) : Bool :=
  match argument.toList with
  | '-' :: _ :: _ => true
  | _ => false

end Argument

/-- What a command line asks for. -/
inductive Request
  /-- A description of the options. -/
  | help
  /-- To run with the given values. -/
  | run (values : Values)

/-- Reads the arguments that are left, after some values have been given. -/
def readFrom (values : Values) : List String → Except Misuse Request
  | [] => .ok (.run values)
  | argument :: rest =>
      match Argument.read argument with
      | .help => .ok .help
      | .other => .error (.unexpected argument)
      | .endOfOptions =>
          match rest with
          | [] => .ok (.run values)
          | next :: _ => .error (.unexpected next)
      | .option option (some value) =>
          match values.supply option value with
          | .error misuse => .error misuse
          | .ok supplied => readFrom supplied rest
      | .option option none =>
          match rest with
          | [] => .error (.missingValue option)
          | value :: further =>
              if Argument.looksLikeOption value then .error (.missingValue option)
              else
                match values.supply option value with
                | .error misuse => .error misuse
                | .ok supplied => readFrom supplied further

/-- Reads a command line. -/
def read (arguments : List String) : Except Misuse Request :=
  readFrom Directory.empty arguments

def describe (option : Switch) : String :=
  let short := match option.shortName? with
    | some name => "-" ++ name.toString ++ ", "
    | none => "    "
  "  " ++ short ++ "--" ++ option.longName ++ " <VALUE>  " ++ option.purpose ++ " [default: " ++
    option.defaultValue ++ "]\n"

/-- The description of the options. -/
def helpText : String :=
  "Serve the built-in event service and echo each payload back\n\nOptions:\n" ++
    String.join (Switch.all.map describe) ++ "  -h, --help  Print help\n"

end Rendezvous.CommandLine
