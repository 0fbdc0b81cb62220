import Rendezvous.Proofs.Occurrence

/-!
# The ledger of a source

The table of a source and the calls that were made to it make up its ledger. Whatever happens to a
source, its ledger changes by postings of five kinds only (`Snapshot.ledger_undergo`), so what holds
of the ledger is proved posting by posting.

A ledger is sound if the table names calls that were made, and none of them twice.
-/

namespace Rendezvous

/-- How a call that is pending under an id is resolved by whoever takes it out of the table. -/
inductive Closing
  /-- With a response. -/
  | completed (payload : String)
  /-- By its deadline. -/
  | expired
deriving DecidableEq, Repr

namespace Closing

def outcome : Closing → Outcome
  | .completed payload => .completed payload
  | .expired => .failed .deadlineExceeded

/-- How a call counts whose caller did or did not wait. -/
def count (listening : Bool) (tally : Tally) : Closing → Tally
  | .completed _ => tally.countCompleted listening
  | .expired => tally.countTimeout listening

end Closing

/-- What becomes of one call without the table. -/
inductive Alteration
  | resolve (outcome : Outcome)
  | drop
  /-- Its caller leaves. -/
  | hangUp
  /-- Its caller looks. -/
  | poll
deriving DecidableEq, Repr

/-- The call after an alteration. -/
def Alteration.apply (call : Call) : Alteration → Call
  | .resolve outcome => (call.resolve outcome).1
  | .drop => call.drop
  | .hangUp => call.hangUp
  | .poll => call.poll.1

/-- A change of a ledger. -/
inductive Posting
  /-- A call is made and refused. -/
  | refused (status : CallStatus)
  /-- A call is made and entered under an id, unless the id is taken. -/
  | entered (id : CorrelationId)
  /-- The call under an id is taken out of the table and handed to somebody. -/
  | withdrawn (id : CorrelationId)
  /-- The call under an id is taken out of the table and resolved. -/
  | closed (id : CorrelationId) (closing : Closing)
  /-- A call is altered, and the table is not. -/
  | altered (ticket : Ticket) (alteration : Alteration)
deriving DecidableEq, Repr

/-- The table of a source and all calls that were made to it. -/
structure Ledger where
  /-- The table. -/
  pending : Pending
  /-- The calls by their numbers. -/
  calls : List Call

namespace Ledger

/-- Whether the caller of a call still waits. -/
def listens (ledger : Ledger) (ticket : Ticket) : Bool :=
  (ledger.calls[ticket]?).any Call.listening

/-- What has become of the end of a call that resolves it. -/
def reply? (ledger : Ledger) (ticket : Ticket) : Option Reply :=
  (ledger.calls[ticket]?).map Call.reply

/-- The call that is pending under an id. -/
def find? (ledger : Ledger) (id : CorrelationId) : Option Ticket :=
  ledger.pending.entries.find? id

/-- What the end of a call becomes that is resolved now. -/
def verdict (ledger : Ledger) (ticket : Ticket) (outcome : Outcome) : Reply :=
  if ledger.listens ticket then .resolved outcome else .lost

/-- The ledger after one call has changed. -/
def change (ledger : Ledger) (ticket : Ticket) (alteration : Alteration) : Ledger :=
  { ledger with calls := ledger.calls.modify ticket alteration.apply }

/-- The ledger after a posting. -/
def post (ledger : Ledger) : Posting → Ledger
  | .refused status =>
      { ledger with calls := ledger.calls ++ [⟨true, .resolved (.failed status)⟩] }
  | .entered id =>
      match ledger.pending.insert id ledger.calls.length with
      | .error _ => { ledger with calls := ledger.calls ++ [{}] }
      | .ok pending => ⟨pending, ledger.calls ++ [{}]⟩
  | .withdrawn id =>
      match ledger.pending.take? id with
      | none => ledger
      | some (_, pending) => { ledger with pending }
  | .closed id closing =>
      match ledger.pending.take? id with
      | none => ledger
      | some (ticket, pending) =>
          ({ ledger with
            pending := { pending with
              tally := closing.count (ledger.listens ticket) pending.tally } }).change ticket
            (.resolve closing.outcome)
  | .altered ticket alteration => ledger.change ticket alteration

/-- The ledger after a list of postings. -/
def postAll (ledger : Ledger) (postings : List Posting) : Ledger :=
  postings.foldl post ledger

@[simp]
theorem postAll_nil (ledger : Ledger) : ledger.postAll [] = ledger :=
  rfl

@[simp]
theorem postAll_cons (ledger : Ledger) (posting : Posting) (rest : List Posting) :
    ledger.postAll (posting :: rest) = (ledger.post posting).postAll rest :=
  rfl

@[simp]
theorem postAll_append (ledger : Ledger) (earlier later : List Posting) :
    ledger.postAll (earlier ++ later) = (ledger.postAll earlier).postAll later :=
  List.foldl_append

end Ledger

/-! ## What happens to a source, as postings -/

namespace Source

def ledger (source : Source) : Ledger :=
  ⟨source.pending, source.calls⟩

/-- The deadlines that the task hands out when it fires. -/
def handedOut (source : Source) (now : Instant) : List Deadline :=
  ((source.task.fire? now).map Prod.fst).getD []

/-- How the call is refused that is made, if it is. -/
def refusal? (source : Source) (handler : Handler) (metadata : Metadata) (id : CorrelationId) :
    Option CallStatus :=
  match handler.properties metadata id with
  | .error _ => some .dataLoss
  | .ok _ => if source.pending.contains id then some .internal else none

/-- The posting for a call that is made. -/
def admission (source : Source) (handler : Handler) (metadata : Metadata) (id : CorrelationId) :
    Posting :=
  match source.refusal? handler metadata id with
  | some status => .refused status
  | none => .entered id

/-- The postings for something that happens. -/
def postings (source : Source) (now : Instant) : Occurrence → List Posting
  | .accept _ metadata id =>
      match source.handler with
      | none => []
      | some handler => [source.admission handler metadata id]
  | .complete id payload => if source.enabled then [.closed id (.completed payload)] else []
  | .insert id => [.entered id]
  | .withdraw id => [.withdrawn id]
  | .resolve ticket outcome => [.altered ticket (.resolve outcome)]
  | .drop ticket => [.altered ticket .drop]
  | .hangUp ticket => [.altered ticket .hangUp]
  | .poll ticket => [.altered ticket .poll]
  | .fire => (source.handedOut now).map fun deadline => .closed deadline.id .expired
  | _ => []

/-- The source with another ledger. -/
def withLedger (source : Source) (ledger : Ledger) : Source :=
  { source with pending := ledger.pending, calls := ledger.calls }

@[simp]
theorem ledger_withLedger (source : Source) (ledger : Ledger) :
    (source.withLedger ledger).ledger = ledger :=
  rfl

@[simp]
theorem task_withLedger (source : Source) (ledger : Ledger) :
    (source.withLedger ledger).task = source.task :=
  rfl

theorem refuse_eq (source : Source) (handler : Handler) (status : CallStatus) :
    source.refuse handler status =
      { source with handler := some handler.countRejected }.withLedger
        (source.ledger.post (.refused status)) := by
  have last : source.calls.length < (source.calls ++ [({} : Call)]).length := by simp
  simp [refuse, resolve, changeCall, openCall, nextTicket, ledger, withLedger, Ledger.post,
    Call.resolve, List.modify_eq_take_cons_drop last]

theorem insert_eq (source : Source) (id : CorrelationId) :
    (source.insert id).1 = source.withLedger (source.ledger.post (.entered id)) := by
  cases inserted : source.pending.insert id source.calls.length <;>
    simp [insert, nextTicket, openCall, ledger, withLedger, Ledger.post, inserted]

theorem ledger_arm (source : Source) (now : Instant) (id : CorrelationId) :
    (source.arm now id).ledger = source.ledger :=
  rfl

/-- A call is accepted or refused, and in each case its event says so. -/
theorem accept_eq (source : Source) (handler : Handler) (now : Instant) (payload : String)
    (metadata : Metadata) (id : CorrelationId) :
    source.accept handler now payload metadata id =
      match source.refusal? handler metadata id with
      | some status => (source.refuse handler status, none)
      | none =>
          ((source.insert id).1.arm now id,
            (handler.properties metadata id).toOption.map (⟨payload, ·⟩)) := by
  cases properties : handler.properties metadata id with
  | error _ => simp [accept, refusal?, properties]
  | ok found =>
      cases taken : source.pending.contains id with
      | true => simp [accept, refusal?, properties, insert, Pending.insert, taken]
      | false =>
          simp [accept, refusal?, properties, insert, Pending.insert, taken, Except.toOption]

theorem ledger_accept (source : Source) (handler : Handler) (now : Instant) (payload : String)
    (metadata : Metadata) (id : CorrelationId) :
    (source.accept handler now payload metadata id).1.ledger =
      source.ledger.post (source.admission handler metadata id) := by
  rw [accept_eq, admission]
  cases source.refusal? handler metadata id with
  | some status => simp only [refuse_eq, ledger_withLedger]
  | none => simp only [ledger_arm, insert_eq, ledger_withLedger]

theorem complete_eq (source : Source) (id : CorrelationId) (payload : String) :
    (source.complete id payload).1 =
      source.withLedger (source.ledger.postAll
        (if source.enabled then [.closed id (.completed payload)] else [])) := by
  cases enabled : source.enabled with
  | false => rw [complete, enabled]; rfl
  | true =>
      rw [complete, if_pos enabled]
      cases taken : source.pending.take? id with
      | none => simp [withdraw?, taken, ledger, withLedger, Ledger.post]
      | some found =>
          simp [withdraw?, taken, ledger, withLedger, Ledger.post, Ledger.change, count, resolve,
            changeCall, Closing.count, Closing.outcome, Ledger.listens, listens, Alteration.apply]

theorem contains_iff {source : Source} {id : CorrelationId} :
    source.pending.contains id = true ↔ ∃ ticket, source.ledger.find? id = some ticket :=
  Option.isSome_iff_exists

theorem contains_eq_false_iff {source : Source} {id : CorrelationId} :
    source.pending.contains id = false ↔ source.ledger.find? id = none := by
  simp [Pending.contains, Directory.contains, ledger, Ledger.find?]

/-- A response completes a call if the source takes responses and a call is pending under the id. -/
theorem complete_iff {source : Source} {id : CorrelationId} (payload : String) :
    (source.complete id payload).2 = true ↔
      source.enabled = true ∧ ∃ ticket, source.ledger.find? id = some ticket := by
  cases enabled : source.enabled with
  | false => simp [complete, enabled]
  | true =>
      cases held : source.pending.entries.find? id <;>
        simp [complete, enabled, withdraw?, Pending.take?, ledger, Ledger.find?, held]

theorem expire_eq (source : Source) (id : CorrelationId) :
    source.expire id = source.withLedger (source.ledger.post (.closed id .expired)) := by
  cases taken : source.pending.take? id <;>
    simp [expire, withdraw?, taken, ledger, withLedger, Ledger.post, Ledger.change, count, resolve,
      changeCall, Closing.count, Closing.outcome, Ledger.listens, listens, Alteration.apply]

theorem expireAll_eq (source : Source) (expired : List Deadline) :
    source.expireAll expired =
      source.withLedger (source.ledger.postAll
        (expired.map fun deadline => .closed deadline.id .expired)) := by
  induction expired generalizing source with
  | nil => rfl
  | cons deadline rest ih =>
      change (source.expire deadline.id).expireAll rest = _
      rw [ih, expire_eq]
      rfl

theorem ledger_work (source : Source) (step? : DeadlineTask → Option DeadlineTask) :
    (source.work step?).ledger = source.ledger := by
  rw [work]
  cases step? source.task <;> rfl

theorem ledger_undergo (source : Source) (now : Instant) (occurrence : Occurrence) :
    (source.undergo now occurrence).ledger =
      source.ledger.postAll (source.postings now occurrence) := by
  cases occurrence with
  | accept payload metadata id =>
      cases handled : source.handler with
      | none => simp [undergo, postings, handled]
      | some handler =>
          simpa [undergo, postings, handled] using
            source.ledger_accept handler now payload metadata id
  | complete id payload => simp [undergo, postings, complete_eq]
  | insert id => simp [undergo, postings, insert_eq]
  | withdraw id =>
      cases taken : source.pending.take? id <;>
        simp [undergo, postings, withdraw?, taken, ledger, Ledger.post]
  | poll ticket =>
      cases found : source.calls[ticket]? with
      | none =>
          have beyond : source.calls.length ≤ ticket := List.getElem?_eq_none_iff.mp found
          simp [undergo, postings, poll, found, ledger, Ledger.post, Ledger.change,
            List.modify_eq_self beyond]
      | some call => simp [undergo, postings, poll, found, ledger, Ledger.post, Ledger.change,
          changeCall, Alteration.apply]
  | fire =>
      cases fired : source.task.fire? now with
      | none => simp [undergo, postings, handedOut, fire?, fired]
      | some handed =>
          have unchanged : (source.withTask handed.2).ledger = source.ledger := rfl
          simp [undergo, postings, handedOut, fire?, fired, expireAll_eq, unchanged]
  | takeEvent => cases taken : source.events <;> simp [undergo, postings, takeEvent?, taken, ledger]
  | arm id =>
      by_cases last : source.task.schedulers = 0 <;> simp [undergo, postings, last, ledger_arm]
  | spawn => exact source.ledger_work _
  | abandon => exact source.ledger_work _
  | receive => exact source.ledger_work _
  | stopAccepting => exact source.ledger_work _
  | finish => exact source.ledger_work _
  | cloneScheduler =>
      by_cases last : source.task.schedulers = 0 <;>
        simp [undergo, postings, last, withTask, ledger]
  | dropScheduler =>
      by_cases last : source.spareSchedulers = 0 <;>
        simp [undergo, postings, last, withTask, ledger]
  | pass duration => rfl
  | keep event => rfl
  | resolve ticket outcome => rfl
  | drop ticket => rfl
  | hangUp ticket => rfl
  | close => rfl

end Source

namespace Snapshot

/-- The postings for a run of occurrences. -/
def postings (snapshot : Snapshot) : List Occurrence → List Posting
  | [] => []
  | occurrence :: rest =>
      snapshot.source.postings snapshot.now occurrence ++
        (snapshot.undergo occurrence).postings rest

theorem ledger_undergo (snapshot : Snapshot) (occurrence : Occurrence) :
    (snapshot.undergo occurrence).source.ledger =
      snapshot.source.ledger.postAll (snapshot.source.postings snapshot.now occurrence) :=
  snapshot.source.ledger_undergo snapshot.now occurrence

theorem ledger_undergoAll (snapshot : Snapshot) (occurrences : List Occurrence) :
    (snapshot.undergoAll occurrences).source.ledger =
      snapshot.source.ledger.postAll (snapshot.postings occurrences) := by
  induction occurrences generalizing snapshot with
  | nil => rfl
  | cons occurrence rest ih =>
      rw [undergoAll_cons, ih, ledger_undergo, postings, Ledger.postAll_append]

end Snapshot

end Rendezvous
