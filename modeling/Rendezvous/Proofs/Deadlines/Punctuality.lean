import Rendezvous.Proofs.Acceptance
import Rendezvous.Proofs.Deadlines.Settling

/-!
# Deadlines are punctual

Whenever the deadline task is idle, it has handed out exactly the deadlines that were armed and are
due, each once and none early, and what has become of the source does not depend on the choices of
the task. So a call that nobody takes out of the table times out at its deadline and not before.
-/

namespace Rendezvous

namespace Snapshot

variable {start : Snapshot} {before after : List Occurrence} {payload : String}
  {metadata : Metadata} {id : CorrelationId}

/-- The deadline task was started and has nothing to do. -/
def IsIdle (snapshot : Snapshot) : Prop :=
  snapshot.source.task.Started ∧ snapshot.source.task.Rests snapshot.now

/-- A call has the id for itself that it was accepted under: nobody else arms the id, and the call
leaves the table by a deadline only. -/
structure Undisturbed (start : Snapshot) (before : List Occurrence) (payload : String)
    (metadata : Metadata) (id : CorrelationId) (after : List Occurrence) : Prop where
  accepts : (start.undergoAll before).Accepts payload metadata id
  /-- Nobody arms the id before the call. -/
  unarmed : ∀ deadline ∈ start.armings before, deadline.id ≠ id
  /-- Nobody arms the id after the call. -/
  alone : ∀ deadline ∈ ((start.undergoAll before).undergo
    (.accept payload metadata id)).armings after, deadline.id ≠ id
  /-- The end of the call that resolves it stays in the table. -/
  spares : ∀ occurrence ∈ after, occurrence.Spares (start.undergoAll before).source.nextTicket
  /-- Nothing but a deadline takes the call out of the table. -/
  kept : ∀ departure ∈ ((start.undergoAll before).undergo
    (.accept payload metadata id)).departures id (start.undergoAll before).source.nextTicket after,
      departure.2 = .fire

namespace Undisturbed

/-- The call is pending and no deadline has taken it out, or its own deadline was handed out. -/
theorem pending_or_expired (call : Undisturbed start before payload metadata id after)
    (new : start.source.task = {}) (sound : start.source.ledger.Sound) :
    let moment := start.undergoAll before
    let accepted := moment.undergo (.accept payload metadata id)
    let final := accepted.undergoAll after
    (accepted.departures id moment.source.nextTicket after = [] ∧
        final.source.ledger.Awaits id moment.source.nextTicket) ∨
      ∃ fired, accepted.departures id moment.source.nextTicket after = [(fired, .fire)] ∧
        moment.deadline id ∈ fired.source.handedOut fired.now ∧
          final.source.ledger.Ended moment.source.nextTicket
            (fired.source.ledger.verdict moment.source.nextTicket (.failed .deadlineExceeded)) := by
  intro moment accepted final
  have soundAccepted : accepted.source.ledger.Sound :=
    sound_undergo (sound_undergoAll sound before) _
  have notWithdrawn : ∀ departure ∈ accepted.departures id moment.source.nextTicket after,
      departure.2 ≠ .withdraw id := by
    intro departure member same
    cases (call.kept departure member).symm.trans same
  rcases undergoAll_awaits soundAccepted (awaits_undergo_accept call.accepts) call.spares
    notWithdrawn with pending | ⟨fired, occurrence, closing, departed, closes, ended⟩
  · exact Or.inl pending
  · have member : (fired, occurrence) ∈ accepted.departures id moment.source.nextTicket after := by
      rw [departed]
      exact List.mem_singleton_self _
    cases call.kept _ member
    cases closes with
    | expired handed named =>
        have own := eq_deadline_of_fired new call.accepts call.unarmed call.alone member handed
          named
        rw [own] at handed
        exact Or.inr ⟨fired, departed, handed, ended⟩

/-- The call is pending at every moment before its deadline. -/
theorem pending_of_early (call : Undisturbed start before payload metadata id after)
    (new : start.source.task = {}) (sound : start.source.ledger.Sound) :
    let moment := start.undergoAll before
    let final := (moment.undergo (.accept payload metadata id)).undergoAll after
    final.now < moment.now + start.source.timeout.nanoseconds →
      final.source.ledger.find? id = some moment.source.nextTicket := by
  intro moment final early
  rcases call.pending_or_expired new sound with ⟨_, awaits⟩ | ⟨fired, departed, handed, _⟩
  · exact awaits.pending
  · have left := List.mem_singleton_self (fired, Occurrence.fire)
    rw [← departed] at left
    have member := mem_firings_of_departure left handed
    have bounds := due_of_mem_firings member
    have due : moment.now + start.source.timeout.nanoseconds ≤ final.now := by
      rw [← start.timeout_undergoAll before]
      exact Nat.le_trans bounds.1 bounds.2
    exact absurd early (Nat.not_lt.mpr due)

/-- At every idle moment from its deadline on the call is out of the table, and it has timed out
unless the caller had left before. -/
theorem ended_of_idle (call : Undisturbed start before payload metadata id after)
    (new : start.source.task = {}) (sound : start.source.ledger.Sound) :
    let moment := start.undergoAll before
    let accepted := moment.undergo (.accept payload metadata id)
    let final := accepted.undergoAll after
    final.IsIdle → moment.now + start.source.timeout.nanoseconds ≤ final.now →
      ∃ fired, accepted.departures id moment.source.nextTicket after = [(fired, .fire)] ∧
        final.source.ledger.Ended moment.source.nextTicket
          (fired.source.ledger.verdict moment.source.nextTicket (.failed .deadlineExceeded)) := by
  intro moment accepted final idle due
  rcases call.pending_or_expired new sound with ⟨none, awaits⟩ | ⟨fired, departed, _, ended⟩
  · -- The deadline of the call is due, so the idle task has handed it out.
    have whole : start.undergoAll (before ++ .accept payload metadata id :: after) = final := by
      simp [final, accepted, moment]
    rw [← whole] at idle
    have handedOut := firings_perm_of_rests new idle.1 idle.2
    have armed : moment.deadline id ∈
        start.armings (before ++ .accept payload metadata id :: after) := by
      rw [armings_append, armings, armed?_accept call.accepts]
      exact List.mem_append_right _ List.mem_cons_self
    have early : (moment.deadline id).due ≤ final.now := by
      rw [← start.timeout_undergoAll before] at due
      exact due
    have fired : moment.deadline id ∈ (start.firings
        (before ++ .accept payload metadata id :: after)).map Prod.snd := by
      rw [handedOut.mem_iff, List.mem_filter, whole]
      exact ⟨armed, decide_eq_true early⟩
    rcases List.mem_map.mp fired with ⟨⟨time, deadline⟩, member, same⟩
    cases same
    rw [firings_append] at member
    rcases List.mem_append.mp member with earlier | later
    · exact absurd rfl (call.unarmed _ (mem_armings_of_mem_firings new earlier))
    · exact absurd none (departures_ne_nil_of_mem_firings
        (sound_undergo (sound_undergoAll sound before) _) (awaits_undergo_accept call.accepts)
        call.spares later rfl)
  · exact ⟨fired, departed, ended⟩

end Undisturbed

/-- The deadline task of a new source is punctual in every run: at an idle moment it has handed out
exactly what was armed and is due, and nothing was handed out early. Runs that differ in the steps
of the task only end alike. A call that has its id for itself stays pending until its deadline, and
has timed out at every idle moment from then on. -/
theorem deadlines_punctual (start : Snapshot) (new : start.source.task = {})
    (sound : start.source.ledger.Sound) (run : List Occurrence) :
    ((start.undergoAll run).IsIdle →
      ((start.firings run).map Prod.snd).Perm ((start.armings run).filter fun deadline =>
        decide (deadline.due ≤ (start.undergoAll run).now))) ∧
    (∀ time deadline, (time, deadline) ∈ start.firings run →
      deadline.due ≤ time ∧ time ≤ (start.undergoAll run).now) ∧
    (∀ other, start.Orderly run → start.Orderly other →
      (run.filter fun occurrence => !occurrence.isStep) =
        (other.filter fun occurrence => !occurrence.isStep) →
      (start.undergoAll run).IsIdle → (start.undergoAll other).IsIdle →
        start.undergoAll run = start.undergoAll other) ∧
    ∀ before payload metadata id after, run = before ++ .accept payload metadata id :: after →
      Undisturbed start before payload metadata id after →
        let moment := start.undergoAll before
        let final := start.undergoAll run
        let ticket := moment.source.nextTicket
        let due := moment.now + start.source.timeout.nanoseconds
        (final.now < due → final.source.ledger.find? id = some ticket) ∧
        (final.IsIdle → due ≤ final.now →
          (∀ other, final.source.ledger.find? other ≠ some ticket) ∧
          (final.source.listens ticket = true →
            final.source.ledger.reply? ticket = some (.resolved (.failed .deadlineExceeded))) ∧
          ∃ fired, (moment.undergo (.accept payload metadata id)).departures id ticket after =
              [(fired, .fire)] ∧
            final.source.ledger.reply? ticket =
              some (if fired.source.listens ticket then .resolved (.failed .deadlineExceeded)
                else .lost)) := by
  refine ⟨fun idle => firings_perm_of_rests new idle.1 idle.2,
    fun time deadline fired => due_of_mem_firings fired, ?_, ?_⟩
  · intro other orderlyRun orderlyOther same idleRun idleOther
    exact undergoAll_eq_of_rests (Source.taskSound_of_new new) orderlyRun orderlyOther same
      idleRun.2 idleOther.2
  · rintro before payload metadata id after rfl call
    have early := call.pending_of_early new sound
    have late := call.ended_of_idle new sound
    rw [undergoAll_append, undergoAll_cons]
    refine ⟨early, fun idle due => ?_⟩
    rcases late idle due with ⟨fired, departed, ended⟩
    refine ⟨ended.gone, fun waits => ?_, fired, departed, ended.replied⟩
    -- The caller waits now, so it waited when the deadline was handed out.
    have member := List.mem_singleton_self (fired, Occurrence.fire)
    rw [← departed] at member
    rcases split_of_mem_departures member with ⟨earlier, later, rfl, rfl, pending⟩
    have made := (sound_undergoAll (sound_undergo (sound_undergoAll sound before)
      (.accept payload metadata id)) earlier).made pending
    rw [undergoAll_append] at waits
    have listening := listens_of_listens_undergoAll made waits
    rw [ended.replied, Ledger.verdict, if_pos listening]

/-- One call is made before the task is started, and nobody completes it. -/
theorem deadlines_punctual_of_one_call :
    let start : Snapshot :=
      ⟨0, { id := "echo", timeout := ⟨5⟩, handler := some { listener := {} } }⟩
    let run : List Occurrence :=
      [.accept "in" Directory.empty ⟨7⟩, .spawn, .receive, .pass ⟨5⟩, .fire]
    start.source.task = {} ∧ start.source.ledger.Sound ∧ (start.undergoAll run).IsIdle ∧
      ((start.firings run).map Prod.snd).Perm [⟨5, ⟨7⟩⟩] ∧
        (start.undergoAll run).source.ledger.reply? 0 =
          some (.resolved (.failed .deadlineExceeded)) := by
  intro start run
  have sound : start.source.ledger.Sound := Ledger.sound_of_empty rfl
  have idle : (start.undergoAll run).IsIdle := ⟨Or.inl rfl, rfl, rfl, rfl, rfl⟩
  have punctual := deadlines_punctual start rfl sound run
  have call : Undisturbed start [] "in" Directory.empty ⟨7⟩ run.tail := by
    refine ⟨⟨{ listener := {} }, rfl, rfl⟩, by decide, by decide, ?_, ?_⟩
    · intro occurrence member
      simp only [run, List.tail_cons, List.mem_cons, List.not_mem_nil, or_false] at member
      rcases member with rfl | rfl | rfl | rfl <;> trivial
    · intro departure member
      rw [List.mem_singleton.mp member]
  have late := (punctual.2.2.2 [] "in" Directory.empty ⟨7⟩ run.tail rfl call).2 idle (by decide)
  exact ⟨rfl, sound, idle, punctual.1 idle, late.2.1 rfl⟩

end Snapshot

end Rendezvous
