import Rendezvous.Exchange.Action

/-!
# What happens to one source

A run of an exchange concerns many sources. Seen from one of them it is a list of occurrences: each
is one operation on the table, on a call, on the deadline task or on the clock, and they may come in
any order. `Snapshot.undergoAll` replays such a list with the operations of `Source` themselves, and
`Exchange.snapshot?_performAll` says that nothing else ever happens to a source.

The steps of the deadline task are occurrences like the others, so a list of occurrences also says
what the task chose wherever it had a choice.
-/

namespace Rendezvous

/-- Something that happens to a source. Where an action of an exchange is the same, it has the same
name; a call that is made (`accept`) may be refused, and a scheduler that goes away
(`dropScheduler`) is not the one of the handler. -/
inductive Occurrence
  | pass (duration : Duration)
  | accept (payload : String) (metadata : Metadata) (id : CorrelationId)
  | keep (event : Event)
  | takeEvent
  | complete (id : CorrelationId) (payload : String)
  | insert (id : CorrelationId)
  | withdraw (id : CorrelationId)
  | arm (id : CorrelationId)
  | resolve (ticket : Ticket) (outcome : Outcome)
  | drop (ticket : Ticket)
  | hangUp (ticket : Ticket)
  | poll (ticket : Ticket)
  | spawn
  | abandon
  | cloneScheduler
  | dropScheduler
  | close
  | receive
  | fire
  | stopAccepting
  | finish

/-- The deadline task takes a step of its own. -/
def Occurrence.isStep : Occurrence → Bool
  | .receive | .fire | .stopAccepting | .finish => true
  | _ => false

namespace Source

/-- The deadline task takes a step if it can. -/
def work (source : Source) (step? : DeadlineTask → Option DeadlineTask) : Source :=
  match step? source.task with
  | none => source
  | some task => source.withTask task

/-- How many schedulers there are besides the one of the handler. -/
def spareSchedulers (source : Source) : Nat :=
  source.task.schedulers - if source.handler.isSome then 1 else 0

/-- The source after something has happened to it. -/
def undergo (source : Source) (now : Instant) : Occurrence → Source
  | .pass _ => source
  | .accept payload metadata id =>
      match source.handler with
      | none => source
      | some handler => (source.accept handler now payload metadata id).1
  | .keep event => { source with events := source.events ++ [event] }
  | .takeEvent =>
      match source.takeEvent? with
      | none => source
      | some (_, rest) => rest
  | .complete id payload => (source.complete id payload).1
  | .insert id => (source.insert id).1
  | .withdraw id =>
      match source.withdraw? id with
      | none => source
      | some (_, withdrawn) => withdrawn
  | .arm id => if source.task.schedulers = 0 then source else source.arm now id
  | .resolve ticket outcome => source.resolve ticket outcome
  | .drop ticket => source.drop ticket
  | .hangUp ticket => source.hangUp ticket
  | .poll ticket => (source.poll ticket).1
  | .spawn => source.work DeadlineTask.spawn?
  | .abandon => source.work DeadlineTask.abandon?
  | .cloneScheduler =>
      if source.task.schedulers = 0 then source else source.withTask source.task.addScheduler
  | .dropScheduler =>
      if source.spareSchedulers = 0 then source else source.withTask source.task.dropScheduler
  | .close => source.close
  | .receive => source.work DeadlineTask.receive?
  | .fire =>
      match source.fire? now with
      | none => source
      | some fired => fired
  | .stopAccepting => source.work DeadlineTask.close?
  | .finish => source.work DeadlineTask.finish?

end Source

/-- A source at a moment. -/
structure Snapshot where
  /-- The moment. -/
  now : Instant
  source : Source

namespace Snapshot

/-- The moment after something has happened. -/
def after (snapshot : Snapshot) : Occurrence → Instant
  | .pass duration => snapshot.now + duration.nanoseconds
  | _ => snapshot.now

/-- The snapshot after something has happened to the source. -/
def undergo (snapshot : Snapshot) (occurrence : Occurrence) : Snapshot :=
  ⟨snapshot.after occurrence, snapshot.source.undergo snapshot.now occurrence⟩

/-- The snapshot after a run of occurrences. -/
def undergoAll (snapshot : Snapshot) (occurrences : List Occurrence) : Snapshot :=
  occurrences.foldl undergo snapshot

variable (snapshot : Snapshot)

@[simp]
theorem undergoAll_nil : snapshot.undergoAll [] = snapshot :=
  rfl

@[simp]
theorem undergoAll_cons (occurrence : Occurrence) (rest : List Occurrence) :
    snapshot.undergoAll (occurrence :: rest) = (snapshot.undergo occurrence).undergoAll rest :=
  rfl

@[simp]
theorem undergoAll_append (earlier later : List Occurrence) :
    snapshot.undergoAll (earlier ++ later) = (snapshot.undergoAll earlier).undergoAll later :=
  List.foldl_append

theorem now_le_undergo (occurrence : Occurrence) :
    snapshot.now ≤ (snapshot.undergo occurrence).now := by
  cases occurrence with
  | pass duration => exact Nat.le_add_right _ _
  | _ => exact Nat.le_refl _

theorem now_le_undergoAll (occurrences : List Occurrence) :
    snapshot.now ≤ (snapshot.undergoAll occurrences).now := by
  induction occurrences generalizing snapshot with
  | nil => exact Nat.le_refl _
  | cons occurrence rest ih =>
      exact Nat.le_trans (snapshot.now_le_undergo occurrence) (ih (snapshot.undergo occurrence))

end Snapshot

end Rendezvous
