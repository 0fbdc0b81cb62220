import Rendezvous.Exchange

/-!
# Runs of an exchange

Everything that can happen to an exchange, one action at a time, with what whoever acts is told.
The steps of a deadline task are actions of their own, so that a run can contain them in any order;
`settle` takes the steps of all tasks until they have nothing to do.
-/

namespace Rendezvous

/-- Something that happens to an exchange. -/
inductive Action
  /-- A call is made to a source that will enter it under the given id. -/
  | handle (source : SourceName) (payload : String) (metadata : Metadata) (id : CorrelationId)
  /-- Somebody tries to complete a call. -/
  | dispatch (attempt : Dispatch)
  /-- The echo stage of a source answers the oldest event. -/
  | echo (source : SourceName)
  /-- A call is made and entered without the knowledge of the listener. -/
  | insert (source : SourceName) (id : CorrelationId)
  /-- A deadline is armed. -/
  | arm (source : SourceName) (id : CorrelationId)
  /-- A call is taken out of the table. -/
  | withdraw (source : SourceName) (id : CorrelationId)
  /-- Somebody who holds the end of a call resolves it. -/
  | resolve (source : SourceName) (ticket : Ticket) (outcome : Outcome)
  /-- Somebody who holds the end of a call drops it. -/
  | drop (source : SourceName) (ticket : Ticket)
  /-- A caller leaves. -/
  | hangUp (source : SourceName) (ticket : Ticket)
  /-- A caller looks at its end. -/
  | poll (source : SourceName) (ticket : Ticket)
  /-- The deadline task of a source is started. -/
  | spawn (source : SourceName)
  /-- The deadline task of a source is given up. -/
  | abandonTask (source : SourceName)
  /-- The side of a source that accepts calls goes away. -/
  | close (source : SourceName)
  /-- A deadline task takes up a deadline. -/
  | receive (source : SourceName)
  /-- A deadline task hands out what is due. -/
  | fire (source : SourceName)
  /-- A deadline task learns that nothing more can be armed. -/
  | stopAccepting (source : SourceName)
  /-- A deadline task ends. -/
  | finish (source : SourceName)
  /-- Time passes. -/
  | advance (duration : Duration)
  | register (source : SourceName)
  /-- A source id is deregistered. -/
  | deregister (sourceId : String)

/-- What whoever acts is told. -/
inductive Notice
  | done
  /-- The action is not possible. -/
  | impossible
  /-- The action did or did not have an effect. -/
  | effect (took : Bool)
  /-- A call was made to a source. -/
  | called (receipt : Receipt)
  /-- A call was made and entered. -/
  | inserted (ticket : Ticket)
  /-- A call was made, but its id is pending already. -/
  | duplicate (ticket : Ticket) (refusal : DuplicateId)
  /-- The number of a call that was taken out of the table. -/
  | taken (ticket : Ticket)
  /-- What the caller sees. -/
  | seen (glimpse : Glimpse)
  /-- The source id is taken. -/
  | refused (refusal : AlreadyRegistered)
deriving DecidableEq, Repr

namespace Exchange

def onSource (exchange : Exchange) (name : SourceName) (act : Source → Source × Notice) :
    Exchange × Notice :=
  match exchange.sources.find? name with
  | none => (exchange, .impossible)
  | some source =>
      let (changed, notice) := act source
      (exchange.setSource name changed, notice)

/-- An action on the deadline task of one source, if it is possible. -/
def onTask (exchange : Exchange) (name : SourceName)
    (act? : DeadlineTask → Option DeadlineTask) : Exchange × Notice :=
  exchange.onSource name fun source =>
    match act? source.task with
    | none => (source, .impossible)
    | some task => (source.withTask task, .done)

/-- The end of a call that is still unresolved is resolved, and whoever does it is told whether the
caller still waited. -/
def resolveCall (source : Source) (ticket : Ticket) (outcome : Outcome) : Source × Notice :=
  (source.resolve ticket outcome, .effect (source.listens ticket))

/-- What an action does, and what whoever acts is told. -/
def perform (exchange : Exchange) : Action → Exchange × Notice
  | .handle name payload metadata id =>
      match exchange.handle? name payload metadata id with
      | none => (exchange, .impossible)
      | some (handled, receipt) => (handled, .called receipt)
  | .dispatch attempt =>
      let (dispatched, completed) := exchange.dispatch attempt
      (dispatched, .effect completed)
  | .echo name => (exchange.echoOldest name, .done)
  | .insert name id =>
      exchange.onSource name fun source =>
        match source.insert id with
        | (called, .ok ticket) => (called, .inserted ticket)
        | (called, .error refusal) => (called, .duplicate source.nextTicket refusal)
  | .arm name id =>
      exchange.onSource name fun source =>
        if source.task.schedulers = 0 then (source, .impossible)
        else (source.arm exchange.now id, .done)
  | .withdraw name id =>
      exchange.onSource name fun source =>
        match source.withdraw? id with
        | none => (source, .effect false)
        | some (ticket, withdrawn) => (withdrawn, .taken ticket)
  | .resolve name ticket outcome =>
      exchange.onSource name fun source => resolveCall source ticket outcome
  | .drop name ticket => exchange.onSource name fun source => (source.drop ticket, .done)
  | .hangUp name ticket => exchange.onSource name fun source => (source.hangUp ticket, .done)
  | .poll name ticket =>
      exchange.onSource name fun source =>
        let (polled, glimpse) := source.poll ticket
        (polled, .seen glimpse)
  | .spawn name => exchange.onTask name DeadlineTask.spawn?
  | .abandonTask name => exchange.onTask name DeadlineTask.abandon?
  | .close name => exchange.onSource name fun source => (source.close, .done)
  | .receive name => exchange.onTask name DeadlineTask.receive?
  | .fire name =>
      exchange.onSource name fun source =>
        match source.fire? exchange.now with
        | none => (source, .impossible)
        | some fired => (fired, .done)
  | .stopAccepting name => exchange.onTask name DeadlineTask.close?
  | .finish name => exchange.onTask name DeadlineTask.finish?
  | .advance duration => ({ exchange with now := exchange.now + duration.nanoseconds }, .done)
  | .register name =>
      match exchange.sources.find? name with
      | none => (exchange, .impossible)
      | some source =>
          match exchange.register name source with
          | .error refusal => (exchange, .refused refusal)
          | .ok registered => (registered, .done)
  | .deregister sourceId =>
      let (deregistered, removed) := exchange.deregister sourceId
      (deregistered, .effect removed)

/-- The exchange after a run of actions, and what whoever acted was told. -/
def performAll (exchange : Exchange) : List Action → Exchange × List Notice
  | [] => (exchange, [])
  | action :: rest =>
      let (performed, notice) := exchange.perform action
      let (final, notices) := performed.performAll rest
      (final, notice :: notices)

end Exchange

end Rendezvous
