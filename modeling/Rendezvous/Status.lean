import Rendezvous.Text.Number

/-!
# Statuses of failed calls

A call that fails ends with one of six statuses. A status has a code, a message, and an HTTP status
under which it reaches the client.
-/

namespace Rendezvous

/-- The final failure of a single call. -/
inductive CallStatus
  /-- No response came within the service timeout. -/
  | deadlineExceeded
  /-- The call was dropped before it was registered. -/
  | dataLoss
  /-- The metadata of the call was too large. -/
  | resourceExhausted
  | messageTooLarge
  /-- The server ends the calls that are in flight. -/
  | unavailable
  /-- An invariant of the source is broken. -/
  | internal
deriving DecidableEq, Repr

namespace CallStatus

def all : List CallStatus :=
  [.deadlineExceeded, .dataLoss, .resourceExhausted, .messageTooLarge, .unavailable, .internal]

/-- The number of a status in the body of a response. -/
def code : CallStatus → Int32
  | .deadlineExceeded => 4
  | .dataLoss => 15
  | .resourceExhausted => 8
  | .messageTooLarge => 8
  | .unavailable => 14
  | .internal => 13

def message : CallStatus → String
  | .deadlineExceeded => "deadline exceeded while waiting for response"
  | .dataLoss => "request dropped"
  | .resourceExhausted => "request metadata too large"
  | .messageTooLarge => "request message too large"
  | .unavailable => "server is shutting down"
  | .internal => "internal error"

def httpStatus : CallStatus → Nat
  | .deadlineExceeded => 504
  | .dataLoss => 500
  | .resourceExhausted => 431
  | .messageTooLarge => 413
  | .unavailable => 503
  | .internal => 500

/-- The text of a status: its code in brackets and its message. -/
def text (status : CallStatus) : String :=
  "[" ++ String.ofList (Text.showInteger status.code.toInt) ++ "] " ++ status.message

end CallStatus

end Rendezvous
