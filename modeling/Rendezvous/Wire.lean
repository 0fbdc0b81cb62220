import Rendezvous.CorrelationId
import Rendezvous.Json.Printer
import Rendezvous.Json.Record
import Rendezvous.Settings
import Rendezvous.Status

/-!
# Documents on the wire

The JSON form of settings, events, status bodies and correlation ids. Each document has a printer and
a reader of its own.
-/

namespace Rendezvous

/-! ## Settings -/

namespace Settings

def numberKind : Json.FieldKind :=
  .integer 0 (UInt64.size - 1)

/-- A numeric field of the settings. -/
def numberField (name : String) (default : UInt64) : Json.Field :=
  ⟨name.toList, numberKind, some (.integer default.toNat)⟩

/-- The fields of the settings, which take the defaults of the settings. -/
def fields : List Json.Field :=
  let defaults : Settings := {}
  [⟨"url".toList, .text, some (.text defaults.url.toList)⟩,
    ⟨"source_id".toList, .text, some (.text defaults.sourceId.toList)⟩,
    numberField "max_inbound_message_size" defaults.maxMessageSize,
    numberField "max_inbound_metadata_size" defaults.maxMetadataSize,
    numberField "service_timeout_ms" defaults.serviceTimeoutMs,
    numberField "server_shutdown_waiting_time" defaults.shutdownWaitingTime]

/-- A number of the settings that has been read. -/
def ofFieldNumber (value : Json.FieldValue) : UInt64 :=
  UInt64.ofNat value.number.toNat

/-- The settings with the given values of the fields. -/
def ofValues : List Json.FieldValue → Except Json.Fault Settings
  | [url, sourceId, maxMessageSize, maxMetadataSize, serviceTimeoutMs, shutdownWaitingTime] =>
      .ok {
        url := String.ofList url.characters
        sourceId := String.ofList sourceId.characters
        maxMessageSize := ofFieldNumber maxMessageSize
        maxMetadataSize := ofFieldNumber maxMetadataSize
        serviceTimeoutMs := ofFieldNumber serviceTimeoutMs
        shutdownWaitingTime := ofFieldNumber shutdownWaitingTime }
  | _ => .error .mismatch

/-- Settings, and the rest of the text. -/
def readJson (text : List Char) : Except Json.Fault (Settings × List Char) := do
  let (values, rest) ← Json.readRecord fields text
  let settings ← ofValues values
  .ok (settings, rest)

/-- The settings that a whole document holds. -/
def ofJson (document : String) : Except Json.Fault Settings :=
  Json.readWholeText readJson document.toList

/-- The characters of the document of settings. -/
def printJson (settings : Settings) : List Char :=
  Json.object [
    ("url", Json.string settings.url.toList),
    ("source_id", Json.string settings.sourceId.toList),
    ("max_inbound_message_size", Text.showNatural settings.maxMessageSize.toNat),
    ("max_inbound_metadata_size", Text.showNatural settings.maxMetadataSize.toNat),
    ("service_timeout_ms", Text.showNatural settings.serviceTimeoutMs.toNat),
    ("server_shutdown_waiting_time", Text.showNatural settings.shutdownWaitingTime.toNat)]

/-- The document of settings. -/
def toJson (settings : Settings) : String :=
  String.ofList settings.printJson

end Settings

/-! ## Messages of the built-in service -/

/-- The message that the built-in event service takes and returns. -/
structure EventMessage where
  /-- What the message carries. -/
  payload : String
deriving DecidableEq, Repr

namespace EventMessage

def fields : List Json.Field :=
  [⟨"payload".toList, .text, none⟩]

/-- The message with the given values of the fields. -/
def ofValues : List Json.FieldValue → Except Json.Fault EventMessage
  | [payload] => .ok ⟨String.ofList payload.characters⟩
  | _ => .error .mismatch

/-- A message, and the rest of the text. -/
def readJson (text : List Char) : Except Json.Fault (EventMessage × List Char) := do
  let (values, rest) ← Json.readRecord fields text
  let message ← ofValues values
  .ok (message, rest)

/-- The message that a whole document holds. -/
def ofJson (document : String) : Except Json.Fault EventMessage :=
  Json.readWholeText readJson document.toList

/-- The characters of the document of a message. -/
def printJson (message : EventMessage) : List Char :=
  Json.object [("payload", Json.string message.payload.toList)]

/-- The document of a message. -/
def toJson (message : EventMessage) : String :=
  String.ofList message.printJson

end EventMessage

/-! ## Bodies of failed calls -/

/-- The body of the response to a failed call. -/
structure StatusBody where
  code : Int32
  message : String
deriving DecidableEq, Repr

namespace StatusBody

def fields : List Json.Field :=
  [⟨"code".toList, .integer Int32.minValue.toInt Int32.maxValue.toInt, none⟩, ⟨"message".toList, .text, none⟩]

/-- The body with the given values of the fields. -/
def ofValues : List Json.FieldValue → Except Json.Fault StatusBody
  | [code, message] => .ok ⟨Int32.ofInt code.number, String.ofList message.characters⟩
  | _ => .error .mismatch

/-- A body, and the rest of the text. -/
def readJson (text : List Char) : Except Json.Fault (StatusBody × List Char) := do
  let (values, rest) ← Json.readRecord fields text
  let body ← ofValues values
  .ok (body, rest)

/-- The body that a whole document holds. -/
def ofJson (document : String) : Except Json.Fault StatusBody :=
  Json.readWholeText readJson document.toList

/-- The characters of the document of a body. -/
def printJson (body : StatusBody) : List Char :=
  Json.object [("code", Text.showInteger body.code.toInt), ("message", Json.string body.message.toList)]

/-- The document of a body. -/
def toJson (body : StatusBody) : String :=
  String.ofList body.printJson

end StatusBody

def CallStatus.body (status : CallStatus) : StatusBody :=
  ⟨status.code, status.message⟩

/-! ## Correlation ids -/

namespace CorrelationId

/-- An id, and the rest of the text. Blanks inside the string count. -/
def readJson (text : List Char) : Except Json.Fault (CorrelationId × List Char) := do
  let (characters, rest) ← Json.readString text
  match parseExact? characters with
  | some id => .ok (id, rest)
  | none => .error .mismatch

/-- The id that a whole document holds. -/
def ofJson (document : String) : Except Json.Fault CorrelationId :=
  Json.readWholeText readJson document.toList

/-- The characters of the document of an id. -/
def printJson (id : CorrelationId) : List Char :=
  Json.string id.characters

/-- The document of an id. -/
def toJson (id : CorrelationId) : String :=
  String.ofList id.printJson

end CorrelationId

end Rendezvous
