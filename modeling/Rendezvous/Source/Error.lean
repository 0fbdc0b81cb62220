import Rendezvous.Address
import Rendezvous.Duration
import Rendezvous.Registry
import Rendezvous.Settings.Error

/-!
# Failures of a source

What can go wrong when a source is built, started or shut down, each with its message.
-/

namespace Rendezvous

/-- Why a source cannot be built, started or shut down. -/
inductive SourceError
  | settings (cause : SettingsError)
  /-- The source id is taken. -/
  | registry (cause : AlreadyRegistered)
  /-- The address cannot be bound. -/
  | bind (address : SocketAddress) (reason : String)
  /-- The server was started before. -/
  | alreadyStarted
  /-- The server cannot start. -/
  | startup (reason : String)
  /-- The server did not end in the time given to a forced shutdown. -/
  | shutdownTimedOut (grace : Duration)
deriving DecidableEq, Repr

namespace SourceError

def message : SourceError → String
  | .settings cause => "configuration error: " ++ cause.message
  | .registry cause => cause.message
  | .bind address reason => "failed to bind " ++ address.text ++ ": " ++ reason
  | .alreadyStarted => "server has already been started"
  | .startup reason => "startup error: " ++ reason
  | .shutdownTimedOut grace =>
      "server did not terminate within " ++ grace.text ++ " after forced shutdown"

/-- The message of a failure, followed by those of the causes below it. -/
def messages (error : SourceError) : List String :=
  match error with
  | .settings cause => [error.message, cause.message]
  | .bind _ reason => [error.message, reason]
  | _ => [error.message]

end SourceError

end Rendezvous
