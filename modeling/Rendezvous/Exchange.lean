import Rendezvous.Source

/-!
# Exchanges

An exchange is a set of sources with one registry and one clock. It routes every attempt to complete
a call to the source that it names, and lets the listener of a source react to an event while the
call that caused it is being handled.
-/

namespace Rendezvous

/-- Sources that share a registry and a clock. -/
structure Exchange where
  /-- The present moment. -/
  now : Instant := 0
  /-- The sources by their names. -/
  sources : Directory SourceName Source := Directory.empty
  /-- The sources that can be reached by their source ids. -/
  registry : Registry := Directory.empty

/-- What has become of a call that was made to a source. -/
structure Receipt where
  /-- The number of the call. -/
  ticket : Ticket
  accepted : Bool
  /-- Which dispatches of the listener completed a call. -/
  answers : List Bool
deriving DecidableEq, Repr

namespace Exchange

/-- Puts a source in the place of its earlier state. -/
def setSource (exchange : Exchange) (name : SourceName) (source : Source) : Exchange :=
  { exchange with sources := exchange.sources.put name source }

@[simp]
theorem find?_setSource (exchange : Exchange) (name other : SourceName) (source : Source) :
    (exchange.setSource name source).sources.find? other =
      if other = name then some source else exchange.sources.find? other :=
  Directory.find?_put exchange.sources name other source

/-- Changes a source, if there is one of the name. -/
def changeSource (exchange : Exchange) (name : SourceName) (change : Source → Source) : Exchange :=
  match exchange.sources.find? name with
  | none => exchange
  | some source => exchange.setSource name (change source)

/-- The source and the id that a dispatch names, if it names any. -/
def destination? (exchange : Exchange) : Dispatch → Option (SourceName × CorrelationId)
  | .typed source id _ => some (source, id)
  | .textual source text _ => (CorrelationId.parse? text).map (source, ·)
  | .registered sourceId text _ =>
      match exchange.registry.find? sourceId with
      | none => none
      | some source => (CorrelationId.parse? text).map (source, ·)

/-- Makes a dispatch, and tells whether it completed a call. -/
def dispatch (exchange : Exchange) (attempt : Dispatch) : Exchange × Bool :=
  match exchange.destination? attempt with
  | none => (exchange, false)
  | some (name, id) =>
      match exchange.sources.find? name with
      | none => (exchange, false)
      | some source =>
          let (changed, completed) := source.complete id attempt.payload
          (exchange.setSource name changed, completed)

/-- Makes dispatches one after another, and tells which of them completed a call. -/
def dispatchAll (exchange : Exchange) : List Dispatch → Exchange × List Bool
  | [] => (exchange, [])
  | attempt :: rest =>
      let (dispatched, completed) := exchange.dispatch attempt
      let (final, others) := dispatched.dispatchAll rest
      (final, completed :: others)

/-- A listener gets an event of a source: it makes its dispatches and then keeps the event. -/
def notify (exchange : Exchange) (name : SourceName) (listener : Listener) (event : Event) :
    Exchange × List Bool :=
  let (reacted, answers) := exchange.dispatchAll (listener.reactions event)
  (reacted.changeSource name (·.keep listener event), answers)

/-- A call is made to a source, and the listener of the source is told if the call is accepted. -/
def handle? (exchange : Exchange) (name : SourceName) (payload : String) (metadata : Metadata)
    (id : CorrelationId) : Option (Exchange × Receipt) :=
  match exchange.sources.find? name with
  | none => none
  | some source =>
      match source.handler with
      | none => none
      | some handler =>
          match source.accept handler exchange.now payload metadata id with
          | (refused, none) =>
              some (exchange.setSource name refused, ⟨source.nextTicket, false, []⟩)
          | (accepted, some event) =>
              let (notified, answers) :=
                (exchange.setSource name accepted).notify name handler.listener event
              some (notified, ⟨source.nextTicket, true, answers⟩)

/-- Registers a source under its id. -/
def register (exchange : Exchange) (name : SourceName) (source : Source) :
    Except AlreadyRegistered Exchange :=
  match exchange.registry.register source.id name with
  | .error refusal => .error refusal
  | .ok registry => .ok { exchange with registry }

/-- Removes whatever is registered under an id, and tells whether there was anything. -/
def deregister (exchange : Exchange) (sourceId : String) : Exchange × Bool :=
  let (registry, removed) := exchange.registry.deregister sourceId
  ({ exchange with registry }, removed)

/-- The response of an echo to an event: what came in goes back to the call whose id is the first
transport property, through the registry. -/
def echo? (sourceId : String) (event : Event) : Option Dispatch :=
  event.properties.head?.map fun id => .registered sourceId id event.payload

/-- The echo stage of a source answers the oldest event that is kept. -/
def echoOldest (exchange : Exchange) (name : SourceName) : Exchange :=
  match exchange.sources.find? name with
  | none => exchange
  | some source =>
      match source.takeEvent? with
      | none => exchange
      | some (event, rest) =>
          let taken := exchange.setSource name rest
          match echo? source.id event with
          | none => taken
          | some response => (taken.dispatch response).1

/-- Lets every deadline task run until it has nothing to do. -/
def settle (exchange : Exchange) : Exchange :=
  exchange.sources.keys.foldl
    (fun exchange name => exchange.changeSource name (·.settle exchange.now)) exchange

end Exchange

end Rendezvous
