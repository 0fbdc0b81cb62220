import Rendezvous.Proofs.Ledger.Leaving
import Rendezvous.Proofs.Ledger.Settlement

/-!
# The counters of a source balance

At every moment of every run the counters of a source say what has become of the calls that were
made to it (`Exchange.counters_balance`): every call that was entered was completed, has timed out,
was handed to somebody, or is still in the table, and every call that was made through the handler
was entered or refused. Attempts that fail are not counted.
-/

namespace Rendezvous

namespace Source

/-- What is counted about a source: what has become of its calls, and how many were refused, as long
as somebody counts them. -/
def counters (source : Source) : Tally × Option Nat :=
  (source.pending.tally, source.rejected?)

variable {source : Source} {id : CorrelationId}

theorem counters_insert_of_error {duplicate : DuplicateId}
    (failed : (source.insert id).2 = .error duplicate) :
    (source.insert id).1.counters = source.counters := by
  cases inserted : source.pending.insert id source.nextTicket with
  | error _ => simp [insert, inserted, counters, rejected?, openCall]
  | ok pending => simp [insert, inserted] at failed

/-- A response that finds no call changes nothing. -/
theorem complete_eq_self {payload : String} (missed : (source.complete id payload).2 = false) :
    (source.complete id payload).1 = source := by
  cases enabled : source.enabled with
  | false => simp [complete, enabled]
  | true =>
      cases withdrawn : source.withdraw? id with
      | none => simp [complete, enabled, withdrawn]
      | some found => simp [complete, enabled, withdrawn] at missed

/-- A deadline that finds no call changes nothing. -/
theorem expire_eq_self (missed : source.withdraw? id = none) : source.expire id = source := by
  simp [expire, missed]

end Source

namespace Exchange

/-- A dispatch that completes no call changes no source. -/
theorem snapshot?_dispatch_of_missed {exchange : Exchange} {attempt : Dispatch}
    (missed : (exchange.dispatch attempt).2 = false) (name : SourceName) :
    (exchange.dispatch attempt).1.snapshot? name = exchange.snapshot? name := by
  cases destination : exchange.destination? attempt with
  | none => simp [dispatch, destination]
  | some place =>
      cases found : exchange.sources.find? place.1 with
      | none => simp [dispatch, destination, found]
      | some source =>
          simp only [dispatch, destination, found] at missed ⊢
          rw [Source.complete_eq_self missed]
          have unchanged : Follows exchange (exchange.setSource place.1 source) name [] :=
            follows_unchanged found
          rw [Follows] at unchanged
          simpa using unchanged

end Exchange

namespace Snapshot

/-- The counters after a run balance: they agree with what happened in it. -/
structure Balanced (start : Snapshot) (run : List Occurrence) : Prop where
  /-- The calls that were entered are those that the handler accepted and those that were inserted
  without it. -/
  entered : (start.undergoAll run).source.pending.tally.registered =
    start.countAlong Source.admits run + start.countAlong Source.inserts run
  /-- A call that was entered has ended, is pending, or was handed to somebody. -/
  registered :
    let pending := (start.undergoAll run).source.pending
    pending.tally.registered =
      pending.tally.completed + pending.tally.timeouts + pending.size +
        start.countAlong Source.withdraws run
  completed : (start.undergoAll run).source.pending.tally.completed =
    (start.settlements run).countP (·.cause.isDispatch)
  timeouts : (start.undergoAll run).source.pending.tally.timeouts =
    (start.settlements run).countP (!·.cause.isDispatch)
  /-- The abandoned calls are those whose caller had left when they were settled. -/
  abandoned : (start.undergoAll run).source.pending.tally.abandoned =
    (start.settlements run).countP (!·.waited)
  abandoned_le :
    let tally := (start.undergoAll run).source.pending.tally
    tally.abandoned ≤ tally.completed + tally.timeouts
  /-- A call that is pending has lost its caller if the caller has hung up, and only then. -/
  left : start.Owned run → ∀ id ticket,
    (start.undergoAll run).source.ledger.find? id = some ticket →
      ((start.undergoAll run).source.listens ticket = false ↔ start.Leaves ticket run)
  /-- A call that was made through the handler was entered or refused. -/
  rejected : ∀ rejected, (start.undergoAll run).source.rejected? = some rejected →
    (run.filterMap Occurrence.minted?).length =
      rejected + start.countAlong Source.admits run

theorem balanced {start : Snapshot} (new : start.source.IsNew)
    (unrefused : start.source.rejected?.getD 0 = 0) (run : List Occurrence) :
    start.Balanced run := by
  have books := start.books_undergoAll run
  have tally : start.source.pending.tally = {} := by rw [new.pending]
  have size : start.source.pending.size = 0 := by rw [new.pending]; rfl
  -- A settlement is caused by a dispatch or by a deadline.
  have causes : (start.settlements run).length =
      (start.settlements run).countP (·.cause.isDispatch) +
        (start.settlements run).countP (!·.cause.isDispatch) := by
    simpa using List.length_eq_countP_add_countP
      (l := start.settlements run) (fun settled => settled.cause.isDispatch)
  have registered := books.registered
  have completed := books.completed
  have timeouts := books.timeouts
  have abandoned := books.abandoned
  have present := books.size
  simp only [tally, size, Nat.zero_add] at registered completed timeouts abandoned present
  refine ⟨registered, ?_, completed, timeouts, abandoned, ?_, ?_, ?_⟩
  · intro pending
    simp only [pending]
    omega
  · intro tally
    have bound := List.countP_le_length (p := (!·.waited)) (l := start.settlements run)
    simp only [tally]
    omega
  · intro owned id ticket found
    exact listens_eq_false_iff new.pending new.calls owned found
  · intro rejected counted
    rcases rejected_undergoAll counted with ⟨earlier, first, sum⟩
    rw [first, Option.getD_some] at unrefused
    omega

end Snapshot

namespace Exchange

/-- At every moment of a run the counters of a source balance. An insertion that fails, a dispatch
that completes no call and a deadline that finds none change none of them. -/
theorem counters_balance {exchange : Exchange} {name : SourceName} {start : Snapshot}
    (found : exchange.snapshot? name = some start) (new : start.source.IsNew)
    (unrefused : start.source.rejected?.getD 0 = 0) (actions : List Action) :
    (exchange.performAll actions).1.snapshot? name =
        some (start.undergoAll (exchange.chronicle name actions)) ∧
      (exchange.chronicle name actions).filterMap Occurrence.minted? =
        actions.filterMap (Action.minted? name) ∧
      (∀ attempt, ((exchange.performAll actions).1.dispatch attempt).2 = false →
        ((exchange.performAll actions).1.dispatch attempt).1.snapshot? name =
          (exchange.performAll actions).1.snapshot? name) ∧
      ∀ earlier, earlier <+: exchange.chronicle name actions →
        let present := start.undergoAll earlier
        start.Balanced earlier ∧
          (∀ id duplicate, (present.source.insert id).2 = .error duplicate →
            (present.undergo (.insert id)).source.counters = present.source.counters) ∧
          (∀ id payload, (present.source.complete id payload).2 = false →
            (present.undergo (.complete id payload)).source.counters = present.source.counters) ∧
          ∀ id, present.source.withdraw? id = none →
            (present.source.expire id).counters = present.source.counters := by
  refine ⟨by rw [snapshot?_performAll, found, Option.map_some], minted_chronicle _ _ _,
    fun attempt missed => snapshot?_dispatch_of_missed missed name, ?_⟩
  intro earlier _ present
  refine ⟨Snapshot.balanced new unrefused earlier, ?_, ?_, ?_⟩
  · intro id duplicate failed
    exact Source.counters_insert_of_error failed
  · intro id payload missed
    exact congrArg Source.counters (Source.complete_eq_self missed)
  · intro id missed
    exact congrArg Source.counters (Source.expire_eq_self missed)

/-- A call loses its caller and is completed, another call under its id is refused meanwhile, and a
third one is still pending. -/
theorem counters_balance_of_abandoned_call :
    let source : Source :=
      { id := "echo", timeout := ⟨5⟩, handler := some { listener := { keeps := false } } }
    let exchange : Exchange := { sources := Directory.ofList [("a", source)] }
    let actions : List Action :=
      [.handle "a" "in" Directory.empty ⟨7⟩, .handle "a" "again" Directory.empty ⟨7⟩,
        .insert "a" ⟨8⟩, .hangUp "a" 0, .dispatch (.typed "a" ⟨7⟩ "out")]
    let start : Snapshot := ⟨0, source⟩
    exchange.snapshot? "a" = some start ∧ source.IsNew ∧ source.rejected?.getD 0 = 0 ∧
      start.Balanced (exchange.chronicle "a" actions) ∧
      (start.undergoAll (exchange.chronicle "a" actions)).source.counters =
        (⟨2, 1, 0, 1⟩, some 1) := by
  intro source exchange actions start
  have found : exchange.snapshot? "a" = some start := rfl
  have new : source.IsNew := ⟨rfl, rfl, rfl⟩
  have balance := counters_balance found new rfl actions
  refine ⟨found, new, rfl, (balance.2.2.2 _ (List.prefix_refl _)).1, ?_⟩
  rfl

end Exchange

end Rendezvous
