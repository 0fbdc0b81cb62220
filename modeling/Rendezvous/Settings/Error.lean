/-!
# What can be wrong with the settings of a source

The six options of a source, and the causes for which settings are refused, each with its message.
-/

namespace Rendezvous

/-- The options by which a source is set up. -/
inductive OptionKey
  /-- The endpoint address. -/
  | url
  /-- The name under which responses find the source. -/
  | sourceId
  | maxMessageSize
  | maxMetadataSize
  /-- How long a call waits for its response. -/
  | serviceTimeout
  /-- How long each phase of a shutdown may last. -/
  | shutdownWaitingTime
deriving DecidableEq, Repr

namespace OptionKey

/-- The key under which an option is given. -/
def name : OptionKey → String
  | .url => "url"
  | .sourceId => "source.id"
  | .maxMessageSize => "max.inbound.message.size"
  | .maxMetadataSize => "max.inbound.metadata.size"
  | .serviceTimeout => "service.timeout"
  | .shutdownWaitingTime => "server.shutdown.waiting.time"

/-- The options in the order in which they are documented. -/
def all : List OptionKey :=
  [.url, .sourceId, .maxMessageSize, .maxMetadataSize, .serviceTimeout, .shutdownWaitingTime]

end OptionKey

/-- Why the settings of a source are refused. -/
inductive SettingsError
  /-- A required option is absent or blank. -/
  | missingOption (key : OptionKey)
  /-- The value of a numeric option is not a number in range. -/
  | invalidNumber (key : OptionKey) (value : String)
  /-- An address does not have the form of an endpoint address. -/
  | invalidUrl (url : String)
  /-- An address names a scheme that is not served. -/
  | unsupportedScheme (scheme : String)
  /-- The port of an address is absent or not a port number. -/
  | invalidPort (url : String)
  /-- A size limit cannot be kept. -/
  | invalidLimit (reason : String)
  /-- A length of time cannot be kept. -/
  | invalidTimeout (reason : String)
  /-- The address names a service that is not built in, and no other service is given. -/
  | unknownService (service method : String)
  /-- The built-in service has nobody to hand its events to. -/
  | missingListener
deriving DecidableEq, Repr

namespace SettingsError

/-- The form of an endpoint address, as messages show it. -/
def urlForm : String :=
  "grpc://<host>:<port>[/<service>/<method>]"

def message : SettingsError → String
  | .missingOption key => "missing required option '" ++ key.name ++ "'"
  | .invalidNumber key value =>
      "option '" ++ key.name ++ "' has invalid value '" ++ value ++ "'"
  | .invalidUrl url => "invalid url '" ++ url ++ "': expected " ++ urlForm
  | .unsupportedScheme scheme => "unsupported url scheme '" ++ scheme ++ "'"
  | .invalidPort url => "invalid port in url '" ++ url ++ "'"
  | .invalidLimit reason => "invalid limit: " ++ reason
  | .invalidTimeout reason => "invalid timeout: " ++ reason
  | .unknownService service method =>
      "service '" ++ service ++ "/" ++ method ++
        "' is not the built-in event service; supply a custom service"
  | .missingListener => "the built-in event service requires an event listener"

end SettingsError

end Rendezvous
