import Rendezvous.Call
import Rendezvous.Deadline.Task
import Rendezvous.Duration
import Rendezvous.Metadata
import Rendezvous.Metadata.QuotedList
import Rendezvous.Pending
import Rendezvous.Registry

/-!
# Sources

A source accepts calls and hands their events to a listener. Each accepted call is entered under a
fresh id, and its deadline is armed, before the listener learns of it; so a response that the
listener gives at once finds the call. Whatever takes the id out of the table first resolves the
call, be it a response (`complete`) or the deadline (`expire`).

A source owns the calls that were made to it and numbers them in their order.
-/

namespace Rendezvous

/-- What a listener gets for an accepted call. -/
structure Event where
  /-- What the call carries. -/
  payload : String
  /-- The transport properties of the call. -/
  properties : List String
deriving DecidableEq, Repr

/-- An attempt to complete a call. -/
inductive Dispatch
  /-- To a source, with an id. -/
  | typed (source : SourceName) (id : CorrelationId) (payload : String)
  /-- To a source, with the text of an id. -/
  | textual (source : SourceName) (id payload : String)
  /-- To whatever source is registered under a source id, with the text of an id. -/
  | registered (sourceId id payload : String)
deriving DecidableEq, Repr

/-- The response that a dispatch carries. -/
def Dispatch.payload : Dispatch → String
  | .typed _ _ payload => payload
  | .textual _ _ payload => payload
  | .registered _ _ payload => payload

/-- Whoever gets the events of a source. -/
structure Listener where
  /-- The dispatches that the listener makes before it gives control back. -/
  reactions : Event → List Dispatch := fun _ => []
  /-- Whether events are kept for a later stage. -/
  keeps : Bool := true

/-- How transport properties are taken from the metadata of a call. -/
structure Augmentation where
  /-- Takes the requested properties from a header string. -/
  extract : String → List String → Except HeaderError (List String)
  requested : List String

namespace Augmentation

/-- The requested properties of a call. -/
def properties (augmentation : Augmentation) (metadata : Metadata) (id : CorrelationId) :
    Except HeaderError (List String) :=
  augmentation.extract (metadata.headerString id) augmentation.requested

end Augmentation

/-- The side of a source that accepts calls. -/
structure Handler where
  /-- How transport properties are found; without it the id is the only one. -/
  augmentation : Option Augmentation := none
  /-- Who gets the events. -/
  listener : Listener
  /-- The number of calls that were refused. -/
  rejected : Nat := 0

namespace Handler

/-- The transport properties of a call. -/
def properties (handler : Handler) (metadata : Metadata) (id : CorrelationId) :
    Except HeaderError (List String) :=
  match handler.augmentation with
  | some augmentation => augmentation.properties metadata id
  | none => .ok [id.text]

/-- One more call was refused. -/
def countRejected (handler : Handler) : Handler :=
  { handler with rejected := handler.rejected + 1 }

end Handler

/-- A source with the calls that were made to it. -/
structure Source where
  /-- The id under which the source registers. -/
  id : String
  /-- Whether responses complete calls. A source with a service of its own takes none. -/
  enabled : Bool := true
  /-- How long a call waits for its response. -/
  timeout : Duration
  /-- The calls that wait for their responses. -/
  pending : Pending := {}
  /-- All calls that were made, by their numbers. -/
  calls : List Call := []
  /-- The side that accepts calls, unless it is gone. -/
  handler : Option Handler
  /-- The events that the listener keeps, oldest first. -/
  events : List Event := []
  /-- The keeper of the deadlines. -/
  task : DeadlineTask := {}

namespace Source

/-! ## Calls -/

def changeCall (source : Source) (ticket : Ticket) (change : Call → Call) : Source :=
  { source with calls := source.calls.modify ticket change }

/-- Whether the caller of a call still waits. -/
def listens (source : Source) (ticket : Ticket) : Bool :=
  (source.calls[ticket]?).any Call.listening

def resolve (source : Source) (ticket : Ticket) (outcome : Outcome) : Source :=
  source.changeCall ticket fun call => (call.resolve outcome).1

/-- Drops the end of a call that would resolve it. -/
def drop (source : Source) (ticket : Ticket) : Source :=
  source.changeCall ticket Call.drop

/-- The caller of a call leaves. -/
def hangUp (source : Source) (ticket : Ticket) : Source :=
  source.changeCall ticket Call.hangUp

/-- The caller of a call looks at its end. -/
def poll (source : Source) (ticket : Ticket) : Source × Glimpse :=
  match source.calls[ticket]? with
  | none => (source, .gone)
  | some call => (source.changeCall ticket fun call => call.poll.1, call.poll.2)

/-- The number that the next call gets. -/
def nextTicket (source : Source) : Ticket :=
  source.calls.length

/-- A new call is made. -/
def openCall (source : Source) : Source :=
  { source with calls := source.calls ++ [{}] }

/-! ## The table -/

/-- Counts something that has become of a call. -/
def count (source : Source) (tallied : Tally → Tally) : Source :=
  { source with pending := { source.pending with tally := tallied source.pending.tally } }

/-- Makes a call and enters it under an id. If the id is taken the call is made all the same. -/
def insert (source : Source) (id : CorrelationId) : Source × Except DuplicateId Ticket :=
  match source.pending.insert id source.nextTicket with
  | .error duplicate => (source.openCall, .error duplicate)
  | .ok pending => ({ source.openCall with pending }, .ok source.nextTicket)

/-- Takes the call out of the table that is pending under an id. -/
def withdraw? (source : Source) (id : CorrelationId) : Option (Ticket × Source) :=
  match source.pending.take? id with
  | none => none
  | some (ticket, pending) => some (ticket, { source with pending })

/-- Completes the call that is pending under an id, and tells whether there was one. -/
def complete (source : Source) (id : CorrelationId) (payload : String) : Source × Bool :=
  if source.enabled then
    match source.withdraw? id with
    | none => (source, false)
    | some (ticket, withdrawn) =>
        ((withdrawn.count (·.countCompleted (source.listens ticket))).resolve ticket
          (.completed payload), true)
  else (source, false)

/-- Fails the call that is pending under an id, if there is one, because its deadline has come. -/
def expire (source : Source) (id : CorrelationId) : Source :=
  match source.withdraw? id with
  | none => source
  | some (ticket, withdrawn) =>
      (withdrawn.count (·.countTimeout (source.listens ticket))).resolve ticket
        (.failed .deadlineExceeded)

/-! ## Accepting calls -/

/-- Arms the deadline of a call. -/
def arm (source : Source) (now : Instant) (id : CorrelationId) : Source :=
  { source with task := source.task.arm ⟨now + source.timeout.nanoseconds, id⟩ }

/-- Makes a call and refuses it. -/
def refuse (source : Source) (handler : Handler) (status : CallStatus) : Source :=
  { source.openCall with handler := some handler.countRejected }.resolve source.nextTicket
    (.failed status)

/-- Makes a call and either accepts or refuses it. An accepted call is pending under its id, its
deadline is armed, and its event is returned. -/
def accept (source : Source) (handler : Handler) (now : Instant) (payload : String)
    (metadata : Metadata) (id : CorrelationId) : Source × Option Event :=
  match handler.properties metadata id with
  | .error _ => (source.refuse handler .dataLoss, none)
  | .ok properties =>
      match source.insert id with
      | (_, .error _) => (source.refuse handler .internal, none)
      | (entered, .ok _) => (entered.arm now id, some ⟨payload, properties⟩)

/-- Keeps an event if the listener keeps events. -/
def keep (source : Source) (listener : Listener) (event : Event) : Source :=
  if listener.keeps then { source with events := source.events ++ [event] } else source

/-- The oldest event that is kept, and the source without it. -/
def takeEvent? (source : Source) : Option (Event × Source) :=
  match source.events with
  | [] => none
  | event :: rest => some (event, { source with events := rest })

/-- The number of calls that were refused, unless the side that counts them is gone. -/
def rejected? (source : Source) : Option Nat :=
  source.handler.map Handler.rejected

/-! ## Deadlines -/

/-- Replaces the deadline task by a later state of it. -/
def withTask (source : Source) (task : DeadlineTask) : Source :=
  { source with task }

/-- Fails the calls whose deadlines were handed out. -/
def expireAll (source : Source) (expired : List Deadline) : Source :=
  expired.foldl (fun source deadline => source.expire deadline.id) source

/-- The deadline task hands out what is due. -/
def fire? (source : Source) (now : Instant) : Option Source :=
  (source.task.fire? now).map fun (expired, task) => (source.withTask task).expireAll expired

/-- The deadline task runs until it has nothing to do. -/
def settle (source : Source) (now : Instant) : Source :=
  let (expired, task) := source.task.settle now
  (source.withTask task).expireAll expired

/-- The side that accepts calls goes away, and with it all that could arm deadlines. -/
def close (source : Source) : Source :=
  { source with handler := none, task := { source.task with schedulers := 0 } }

end Source

end Rendezvous
