import Rendezvous.Proofs.Occurrence.Frame

/-!
# Settlements

A settlement is a call that is taken out of the table and resolved, by a dispatch or by a deadline.
The settlements of a run, with the calls that were entered and those that were handed to somebody,
account for every counter of the table (`Snapshot.books_undergoAll`).
-/

namespace Rendezvous

/-- What takes a call out of the table and resolves it. -/
inductive Cause
  /-- A dispatch with a response. -/
  | dispatch (payload : String)
  /-- A deadline that was due at the given instant. -/
  | deadline (due : Instant)
deriving DecidableEq, Repr

namespace Cause

def isDispatch : Cause → Bool
  | .dispatch _ => true
  | .deadline _ => false

/-- How the call is resolved. -/
def closing : Cause → Closing
  | .dispatch payload => .completed payload
  | .deadline _ => .expired

end Cause

/-- A call is taken out of the table and resolved. -/
structure Settlement where
  /-- The id under which the call was pending. -/
  id : CorrelationId
  ticket : Ticket
  cause : Cause
  /-- Whether the caller still waited. -/
  waited : Bool
deriving DecidableEq, Repr

namespace Source

/-- The settlement of the call that is pending under an id, if there is one. -/
def settlement? (source : Source) (id : CorrelationId) (cause : Cause) : Option Settlement :=
  (source.ledger.find? id).map fun ticket => ⟨id, ticket, cause, source.listens ticket⟩

/-- The settlements of deadlines that are handed out, one after another. -/
def expirations (source : Source) : List Deadline → List Settlement
  | [] => []
  | deadline :: rest =>
      (source.settlement? deadline.id (.deadline deadline.due)).toList ++
        (source.expire deadline.id).expirations rest

/-- The settlements of something that happens. -/
def settlements (source : Source) (now : Instant) : Occurrence → List Settlement
  | .complete id payload =>
      if source.enabled then (source.settlement? id (.dispatch payload)).toList else []
  | .fire => source.expirations (source.handedOut now)
  | _ => []

/-- Between two states of a source some calls were settled, and so many were entered and handed to
somebody. -/
structure Books (before after : Source) (settled : List Settlement) (entered handed : Nat) :
    Prop where
  registered : after.pending.tally.registered = before.pending.tally.registered + entered
  completed : after.pending.tally.completed =
    before.pending.tally.completed + settled.countP (·.cause.isDispatch)
  timeouts : after.pending.tally.timeouts =
    before.pending.tally.timeouts + settled.countP (!·.cause.isDispatch)
  abandoned : after.pending.tally.abandoned =
    before.pending.tally.abandoned + settled.countP (!·.waited)
  size : after.pending.size + settled.length + handed = before.pending.size + entered

namespace Books

variable {before middle after : Source}

theorem of_same (same : after.pending = before.pending) : Books before after [] 0 0 := by
  constructor <;> simp [same]

/-- Books are about tables. -/
theorem congr {other last : Source} {settled : List Settlement} {entered handed : Nat}
    (books : Books before after settled entered handed) (first : other.pending = before.pending)
    (final : last.pending = after.pending) : Books other last settled entered handed where
  registered := by rw [first, final, books.registered]
  completed := by rw [first, final, books.completed]
  timeouts := by rw [first, final, books.timeouts]
  abandoned := by rw [first, final, books.abandoned]
  size := by rw [first, final, books.size]

theorem trans {first second : List Settlement} {entered others handed more : Nat}
    (earlier : Books before middle first entered handed)
    (later : Books middle after second others more) :
    Books before after (first ++ second) (entered + others) (handed + more) where
  registered := by rw [later.registered, earlier.registered, Nat.add_assoc]
  completed := by rw [later.completed, earlier.completed, List.countP_append, Nat.add_assoc]
  timeouts := by rw [later.timeouts, earlier.timeouts, List.countP_append, Nat.add_assoc]
  abandoned := by rw [later.abandoned, earlier.abandoned, List.countP_append, Nat.add_assoc]
  size := by
    have first := earlier.size
    have second := later.size
    rw [List.length_append]
    omega

end Books

variable {source : Source}

theorem expirations_congr {left right : Source} (same : left.ledger = right.ledger)
    (deadlines : List Deadline) : left.expirations deadlines = right.expirations deadlines := by
  induction deadlines generalizing left right with
  | nil => rfl
  | cons deadline rest ih =>
      have listening : left.listens = right.listens := by
        funext ticket
        exact congrArg (Ledger.listens · ticket) same
      have later : (left.expire deadline.id).ledger = (right.expire deadline.id).ledger := by
        rw [expire_eq, expire_eq, ledger_withLedger, ledger_withLedger, same]
      rw [expirations, expirations, settlement?, settlement?, same, listening, ih later]

theorem size_erase_of_find? {id : CorrelationId} {ticket : Ticket}
    (found : source.pending.entries.find? id = some ticket) :
    (source.pending.entries.erase id).size + 1 = source.pending.entries.size := by
  have counted := source.pending.entries.size_erase id
  rwa [Directory.contains, found, Option.isSome_some, if_pos rfl] at counted

theorem books_expire (source : Source) (id : CorrelationId) (due : Instant) :
    Books source (source.expire id) (source.settlement? id (.deadline due)).toList 0 0 := by
  cases found : source.pending.entries.find? id with
  | none =>
      simpa [settlement?, ledger, Ledger.find?, found] using
        Books.of_same (by simp [expire, withdraw?, Pending.take?, found])
  | some ticket =>
      have size := size_erase_of_find? found
      cases waits : source.listens ticket <;> constructor <;>
        simp [settlement?, ledger, Ledger.find?, found, expire, withdraw?, Pending.take?, waits,
          Tally.countTimeout, Tally.countAbandoned, count, resolve, changeCall, Cause.isDispatch,
          Pending.size, size]

theorem books_expireAll (source : Source) (expired : List Deadline) :
    Books source (source.expireAll expired) (source.expirations expired) 0 0 := by
  induction expired generalizing source with
  | nil => exact .of_same rfl
  | cons deadline rest ih =>
      exact (source.books_expire deadline.id deadline.due).trans (ih (source.expire deadline.id))

theorem books_complete (source : Source) (now : Instant) (id : CorrelationId) (payload : String) :
    Books source (source.complete id payload).1 (source.settlements now (.complete id payload)) 0
      0 := by
  cases enabled : source.enabled with
  | false =>
      simpa [settlements, enabled] using Books.of_same (by simp [complete, enabled])
  | true =>
      cases found : source.pending.entries.find? id with
      | none =>
          simpa [settlements, enabled, settlement?, ledger, Ledger.find?, found] using
            Books.of_same (by simp [complete, enabled, withdraw?, Pending.take?, found])
      | some ticket =>
          have size := size_erase_of_find? found
          cases waits : source.listens ticket <;> constructor <;>
            simp [settlements, enabled, settlement?, ledger, Ledger.find?, found, complete,
              withdraw?, Pending.take?, waits, Tally.countCompleted, Tally.countAbandoned, count,
              resolve, changeCall, Cause.isDispatch, Pending.size, size]

theorem books_insert (source : Source) (id : CorrelationId) :
    Books source (source.insert id).1 [] (source.inserts (.insert id)).toNat 0 := by
  cases taken : source.pending.contains id with
  | true =>
      simpa [inserts, taken] using Books.of_same (by
        simp [insert, Pending.insert, taken, openCall])
  | false =>
      have size := source.pending.entries.size_put id source.calls.length
      rw [show source.pending.entries.contains id = false from taken] at size
      constructor <;>
        simp [inserts, taken, insert, Pending.insert, nextTicket, Tally.countRegistered,
          Pending.size, size]

theorem books_accept (source : Source) (now : Instant) (payload : String) (metadata : Metadata)
    (id : CorrelationId) :
    Books source (source.undergo now (.accept payload metadata id)) []
      (source.admits (.accept payload metadata id)).toNat 0 := by
  cases handled : source.handler with
  | none => simpa [undergo, admits, handled] using Books.of_same rfl
  | some handler =>
      simp only [undergo, handled, accept_eq, admits, Option.any_some]
      cases refusal : source.refusal? handler metadata id with
      | some status => simpa using Books.of_same (by rw [refuse_eq]; rfl)
      | none =>
          have free : source.pending.contains id = false := by
            rw [refusal?] at refusal
            split at refusal
            · cases refusal
            · simpa using refusal
          have entered := source.books_insert id
          rw [inserts, free] at entered
          exact entered.congr rfl rfl

theorem books_withdraw (source : Source) (now : Instant) (id : CorrelationId) :
    Books source (source.undergo now (.withdraw id)) [] 0
      (source.withdraws (.withdraw id)).toNat := by
  cases found : source.pending.entries.find? id with
  | none =>
      simpa [undergo, withdraw?, Pending.take?, found, withdraws, Pending.contains,
        Directory.contains] using Books.of_same rfl
  | some ticket =>
      have size := size_erase_of_find? found
      constructor <;>
        simp [undergo, withdraw?, Pending.take?, found, withdraws, Pending.contains,
          Directory.contains, Pending.size, size]

theorem books_fire (source : Source) (now : Instant) :
    Books source (source.undergo now .fire) (source.expirations (source.handedOut now)) 0 0 := by
  cases fired : source.task.fire? now with
  | none =>
      simpa [undergo, fire?, fired, handedOut, expirations] using Books.of_same rfl
  | some handed =>
      have settled := (source.withTask handed.2).books_expireAll handed.1
      have ledgers : (source.withTask handed.2).ledger = source.ledger := rfl
      rw [expirations_congr ledgers handed.1] at settled
      simpa [undergo, fire?, fired, handedOut] using
        settled.congr (rfl : source.pending = _) rfl

/-- What each occurrence does to the counters. -/
theorem books_undergo (source : Source) (now : Instant) (occurrence : Occurrence) :
    Books source (source.undergo now occurrence) (source.settlements now occurrence)
      ((source.admits occurrence).toNat + (source.inserts occurrence).toNat)
      (source.withdraws occurrence).toNat := by
  have posted := congrArg Ledger.pending (source.ledger_undergo now occurrence)
  cases occurrence with
  | accept payload metadata id => exact source.books_accept now payload metadata id
  | complete id payload => exact source.books_complete now id payload
  | insert id => simpa [undergo, admits, withdraws, settlements] using source.books_insert id
  | withdraw id => exact source.books_withdraw now id
  | fire => exact source.books_fire now
  -- Nothing else touches the table.
  | _ => exact .of_same posted

end Source

namespace Snapshot

/-- The settlements of a run. -/
def settlements (snapshot : Snapshot) : List Occurrence → List Settlement
  | [] => []
  | occurrence :: rest =>
      snapshot.source.settlements snapshot.now occurrence ++
        (snapshot.undergo occurrence).settlements rest

/-- How often something is so in a run, where each occurrence is looked at together with the source
that it happens to. -/
def countAlong (snapshot : Snapshot) (holds : Source → Occurrence → Bool) : List Occurrence → Nat
  | [] => 0
  | occurrence :: rest =>
      (holds snapshot.source occurrence).toNat + (snapshot.undergo occurrence).countAlong holds rest

variable {snapshot : Snapshot}

theorem settlements_append (snapshot : Snapshot) (earlier later : List Occurrence) :
    snapshot.settlements (earlier ++ later) =
      snapshot.settlements earlier ++ (snapshot.undergoAll earlier).settlements later := by
  induction earlier generalizing snapshot with
  | nil => rfl
  | cons occurrence rest ih => simp [settlements, ih]

/-- The books of a run. -/
theorem books_undergoAll (snapshot : Snapshot) (run : List Occurrence) :
    Source.Books snapshot.source (snapshot.undergoAll run).source (snapshot.settlements run)
      (snapshot.countAlong Source.admits run + snapshot.countAlong Source.inserts run)
      (snapshot.countAlong Source.withdraws run) := by
  induction run generalizing snapshot with
  | nil => exact .of_same rfl
  | cons occurrence rest ih =>
      have here := snapshot.source.books_undergo snapshot.now occurrence
      have whole := here.trans (ih (snapshot.undergo occurrence))
      rw [Nat.add_add_add_comm] at whole
      exact whole

/-- As long as calls can be accepted, every call of a run is accepted or counted as refused. -/
theorem rejected_undergoAll {run : List Occurrence} {rejected : Nat}
    (counted : (snapshot.undergoAll run).source.rejected? = some rejected) :
    ∃ earlier, snapshot.source.rejected? = some earlier ∧
      rejected + snapshot.countAlong Source.admits run =
        earlier + (run.filterMap Occurrence.minted?).length := by
  induction run generalizing snapshot with
  | nil => exact ⟨rejected, counted, rfl⟩
  | cons occurrence rest ih =>
      rcases ih counted with ⟨middle, between, later⟩
      rcases Source.rejected_undergo between with ⟨earlier, first, here⟩
      refine ⟨earlier, first, ?_⟩
      rw [countAlong, List.filterMap_cons]
      cases minted : occurrence.minted? <;> simp_all <;> omega

end Snapshot

end Rendezvous
