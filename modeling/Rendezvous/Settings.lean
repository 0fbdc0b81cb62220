import Rendezvous.Directory
import Rendezvous.Duration
import Rendezvous.Endpoint

/-!
# Settings of a source

The settings of a source, their check, and their loading from the flat option map of a host. Absent
numbers take defaults. A check reports the first fault in the order of the options; loading reports
absent options first, then numbers that cannot be read, and then what the check finds.
-/

namespace Rendezvous

/-- How a source is set up. -/
structure Settings where
  /-- The address of the endpoint. -/
  url : String := ""
  /-- The name under which responses find the source. -/
  sourceId : String := ""
  maxMessageSize : UInt64 := 4194304
  /-- The greatest size of the metadata of a call in bytes. -/
  maxMetadataSize : UInt64 := 8192
  /-- How long a call waits for its response, in milliseconds. -/
  serviceTimeoutMs : UInt64 := 10000
  /-- How long each phase of a shutdown may last, in seconds. -/
  shutdownWaitingTime : UInt64 := 5
deriving DecidableEq, Repr

namespace Settings

/-- The endpoint that the settings name. -/
def endpoint (settings : Settings) : Except SettingsError Endpoint :=
  Endpoint.parse settings.url

/-- How long a call waits for its response. -/
def serviceTimeout (settings : Settings) : Duration :=
  .ofMilliseconds settings.serviceTimeoutMs.toNat

/-- How long each phase of a shutdown may last. -/
def gracePeriod (settings : Settings) : Duration :=
  .ofSeconds settings.shutdownWaitingTime.toNat

/-- The endpoint of settings that can be kept: nothing blank, nothing zero, a readable address. -/
def check (settings : Settings) : Except SettingsError Endpoint :=
  if Text.allBlank settings.url.toList then .error (.missingOption .url)
  else if Text.allBlank settings.sourceId.toList then .error (.missingOption .sourceId)
  else if settings.maxMessageSize = 0 then
    .error (.invalidLimit "max_inbound_message_size cannot be 0")
  else if settings.maxMetadataSize = 0 then
    .error (.invalidLimit "max_inbound_metadata_size cannot be 0")
  else if settings.serviceTimeoutMs = 0 then
    .error (.invalidTimeout "service timeout cannot be 0")
  else if settings.shutdownWaitingTime = 0 then
    .error (.invalidTimeout "server shutdown waiting time cannot be 0")
  else settings.endpoint

/-- The number given for an option, or the default of an absent one; blanks around it do not
count. -/
def numberOption (options : Directory String String) (key : OptionKey) (default : UInt64) :
    Except SettingsError UInt64 :=
  match options.find? key.name with
  | none => .ok default
  | some value =>
      match Text.readNatural (UInt64.size - 1) (Text.trim value.toList) with
      | some number => .ok (UInt64.ofNat number)
      | none => .error (.invalidNumber key value)

/-- The text given for an option that must be there. -/
def requiredOption (options : Directory String String) (key : OptionKey) :
    Except SettingsError String :=
  match options.find? key.name with
  | none => .error (.missingOption key)
  | some value => .ok value

/-- The settings that an option map gives, before they are checked. -/
def readOptions (options : Directory String String) : Except SettingsError Settings := do
  let defaults : Settings := {}
  let url ← requiredOption options .url
  let sourceId ← requiredOption options .sourceId
  let maxMessageSize ← numberOption options .maxMessageSize defaults.maxMessageSize
  let maxMetadataSize ← numberOption options .maxMetadataSize defaults.maxMetadataSize
  let serviceTimeoutMs ← numberOption options .serviceTimeout defaults.serviceTimeoutMs
  let shutdownWaitingTime ←
    numberOption options .shutdownWaitingTime defaults.shutdownWaitingTime
  .ok { url, sourceId, maxMessageSize, maxMetadataSize, serviceTimeoutMs, shutdownWaitingTime }

/-- The settings that an option map gives, if they can be kept. -/
def ofOptions (options : Directory String String) : Except SettingsError Settings := do
  let settings ← readOptions options
  let _ ← settings.check
  .ok settings

end Settings

end Rendezvous
