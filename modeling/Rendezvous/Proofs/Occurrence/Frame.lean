import Rendezvous.Proofs.Ledger
import Rendezvous.Proofs.Occurrence.Ordinary

/-!
# What a source keeps

Whatever happens to a source, it keeps its id and its timeout, and it goes on taking responses or
not. The side that accepts calls counts the calls that it refuses until it goes away; nothing else
about it changes. Events come to the end of those that it keeps and are taken from the front.
-/

namespace Rendezvous

namespace Source

/-- Whether a call is made to the source and accepted. -/
def admits (source : Source) : Occurrence → Bool
  | .accept _ metadata id =>
      source.handler.any fun handler => (source.refusal? handler metadata id).isNone
  | _ => false

/-- Whether a call is made and entered without the knowledge of the listener. -/
def inserts (source : Source) : Occurrence → Bool
  | .insert id => !source.pending.contains id
  | _ => false

/-- Whether a call is taken out of the table and handed to somebody. -/
def withdraws (source : Source) : Occurrence → Bool
  | .withdraw id => source.pending.contains id
  | _ => false

/-- The side that accepts calls, after something has happened. -/
def handlerAfter (source : Source) : Occurrence → Option Handler
  | .accept payload metadata id =>
      source.handler.map fun handler =>
        if source.admits (.accept payload metadata id) then handler else handler.countRejected
  | .close => none
  | _ => source.handler

/-- The events that are kept after something has happened. -/
def eventsAfter (source : Source) : Occurrence → List Event
  | .keep event => source.events ++ [event]
  | .takeEvent => source.events.tail
  | _ => source.events

theorem frame_work (source : Source) (step? : DeadlineTask → Option DeadlineTask) :
    (source.work step?).id = source.id ∧ (source.work step?).enabled = source.enabled ∧
      (source.work step?).timeout = source.timeout ∧
        (source.work step?).handler = source.handler ∧
          (source.work step?).events = source.events := by
  rw [work]
  cases step? source.task <;> exact ⟨rfl, rfl, rfl, rfl, rfl⟩

theorem frame_undergo (source : Source) (now : Instant) (occurrence : Occurrence) :
    (source.undergo now occurrence).id = source.id ∧
      (source.undergo now occurrence).enabled = source.enabled ∧
        (source.undergo now occurrence).timeout = source.timeout ∧
          (source.undergo now occurrence).handler = source.handlerAfter occurrence ∧
            (source.undergo now occurrence).events = source.eventsAfter occurrence := by
  cases occurrence with
  | accept payload metadata id =>
      cases handled : source.handler with
      | none => simp [undergo, handled, handlerAfter, eventsAfter]
      | some handler =>
          simp only [undergo, handled, accept_eq, handlerAfter, eventsAfter, admits]
          cases refusal : source.refusal? handler metadata id <;>
            simp [refuse_eq, insert_eq, arm, withLedger, handled, refusal]
  | complete id payload => simp [undergo, complete_eq, withLedger, handlerAfter, eventsAfter]
  | insert id => simp [undergo, insert_eq, withLedger, handlerAfter, eventsAfter]
  | withdraw id =>
      cases taken : source.pending.take? id <;>
        simp [undergo, withdraw?, taken, handlerAfter, eventsAfter]
  | poll ticket =>
      cases found : source.calls[ticket]? <;>
        simp [undergo, poll, found, changeCall, handlerAfter, eventsAfter]
  | takeEvent =>
      cases taken : source.events <;> simp [undergo, takeEvent?, taken, handlerAfter, eventsAfter]
  | fire =>
      cases fired : source.task.fire? now <;>
        simp [undergo, fire?, fired, expireAll_eq, withTask, withLedger, handlerAfter, eventsAfter]
  | arm id =>
      by_cases last : source.task.schedulers = 0 <;>
        simp [undergo, last, arm, handlerAfter, eventsAfter]
  | cloneScheduler =>
      by_cases last : source.task.schedulers = 0 <;>
        simp [undergo, last, withTask, handlerAfter, eventsAfter]
  | dropScheduler =>
      by_cases last : source.spareSchedulers = 0 <;>
        simp [undergo, last, withTask, handlerAfter, eventsAfter]
  | spawn => exact source.frame_work _
  | abandon => exact source.frame_work _
  | receive => exact source.frame_work _
  | stopAccepting => exact source.frame_work _
  | finish => exact source.frame_work _
  | _ => exact ⟨rfl, rfl, rfl, rfl, rfl⟩

/-- As long as calls can be accepted, every call is accepted or counted as refused. -/
theorem rejected_undergo {source : Source} {now : Instant} {occurrence : Occurrence} {rejected : Nat}
    (counted : (source.undergo now occurrence).rejected? = some rejected) :
    ∃ earlier, source.rejected? = some earlier ∧
      rejected + (source.admits occurrence).toNat =
        earlier + occurrence.minted?.toList.length := by
  rw [rejected?, (source.frame_undergo now occurrence).2.2.2.1] at counted
  rw [rejected?]
  cases handled : source.handler with
  | none => cases occurrence <;> simp [handlerAfter, handled] at counted
  | some handler =>
      refine ⟨handler.rejected, rfl, ?_⟩
      cases occurrence with
      | accept payload metadata id =>
          simp only [handlerAfter, handled, Option.map_some, Option.some.injEq] at counted
          subst counted
          cases source.admits (.accept payload metadata id) <;>
            simp [Handler.countRejected, Occurrence.minted?]
      | close => simp [handlerAfter] at counted
      | _ =>
          simp only [handlerAfter, handled, Option.map_some, Option.some.injEq] at counted
          simp [counted, admits, Occurrence.minted?]

end Source

namespace Snapshot

/-- What every occurrence keeps is kept in a run. -/
theorem kept_undergoAll {Value : Type} {value : Source → Value}
    (kept : ∀ source now occurrence, value (source.undergo now occurrence) = value source)
    (snapshot : Snapshot) (run : List Occurrence) :
    value (snapshot.undergoAll run).source = value snapshot.source := by
  induction run generalizing snapshot with
  | nil => rfl
  | cons occurrence rest ih =>
      exact (ih (snapshot.undergo occurrence)).trans (kept snapshot.source snapshot.now occurrence)

theorem id_undergoAll (snapshot : Snapshot) (run : List Occurrence) :
    (snapshot.undergoAll run).source.id = snapshot.source.id :=
  kept_undergoAll (fun source now occurrence => (source.frame_undergo now occurrence).1) snapshot run

theorem enabled_undergoAll (snapshot : Snapshot) (run : List Occurrence) :
    (snapshot.undergoAll run).source.enabled = snapshot.source.enabled :=
  kept_undergoAll (fun source now occurrence => (source.frame_undergo now occurrence).2.1) snapshot
    run

theorem timeout_undergoAll (snapshot : Snapshot) (run : List Occurrence) :
    (snapshot.undergoAll run).source.timeout = snapshot.source.timeout :=
  kept_undergoAll (fun source now occurrence => (source.frame_undergo now occurrence).2.2.1) snapshot
    run

theorem events_undergo (snapshot : Snapshot) (occurrence : Occurrence) :
    (snapshot.undergo occurrence).source.events = snapshot.source.eventsAfter occurrence :=
  (snapshot.source.frame_undergo snapshot.now occurrence).2.2.2.2

theorem handler_undergo (snapshot : Snapshot) (occurrence : Occurrence) :
    (snapshot.undergo occurrence).source.handler = snapshot.source.handlerAfter occurrence :=
  (snapshot.source.frame_undergo snapshot.now occurrence).2.2.2.1

end Snapshot

end Rendezvous
