import Rendezvous.Proofs.CorrelationId
import Rendezvous.Proofs.Handling
import Rendezvous.Proofs.Isolation.Group
import Rendezvous.Proofs.Ledger.Leaving
import Rendezvous.Proofs.Ledger.Removal

/-!
# Listeners that respond before they return

A call is entered and its deadline is armed before the listener gets the event. So no response comes
too early: of the dispatches that the listener makes while it has the event, the first one that
names the call completes it, and all others that name it change nothing
(`Exchange.reactions_in_time`).
-/

namespace Rendezvous

namespace Source

/-- A call is pending under an id, and its caller waits. -/
structure Expects (source : Source) (id : CorrelationId) (ticket : Ticket) : Prop where
  sound : source.ledger.Sound
  awaits : source.ledger.Awaits id ticket
  waits : source.listens ticket = true

/-- A call that was pending under an id has been completed with a payload for a caller who waits. -/
structure Answered (source : Source) (id : CorrelationId) (ticket : Ticket) (payload : String) :
    Prop where
  absent : source.ledger.find? id = none
  ended : source.ledger.Ended ticket (.resolved (.completed payload))
  waits : source.listens ticket = true

variable {source : Source} {id : CorrelationId} {ticket : Ticket} {payload : String}

theorem ledger_complete (source : Source) (id : CorrelationId) (payload : String) :
    (source.complete id payload).1.ledger = source.ledger.postAll
      (if source.enabled then [.closed id (.completed payload)] else []) := by
  rw [complete_eq, ledger_withLedger]

theorem listens_complete (source : Source) (id : CorrelationId) (payload : String)
    (ticket : Ticket) :
    (source.complete id payload).1.listens ticket = source.listens ticket := by
  change (source.complete id payload).1.ledger.listens ticket = source.ledger.listens ticket
  rw [ledger_complete]
  cases source.enabled with
  | false => rfl
  | true => exact Ledger.listens_closed _ _ _

/-- A response to another call, or to a source that takes none, leaves a call pending. -/
theorem Expects.complete (expects : source.Expects id ticket) {other : CorrelationId}
    (apart : source.enabled = true → other ≠ id) (payload : String) :
    (source.complete other payload).1.Expects id ticket := by
  refine ⟨?_, ?_, (source.listens_complete other payload ticket).trans expects.waits⟩
  · rw [ledger_complete]
    exact expects.sound.postAll _
  · rw [ledger_complete]
    cases enabled : source.enabled with
    | false => exact expects.awaits
    | true =>
        apply Ledger.postAll_awaits expects.sound expects.awaits
        · intro posting member
          rw [List.mem_singleton.mp member]
          trivial
        · simp
        · intro closing member
          exact apart enabled (Posting.closed.inj (List.mem_singleton.mp member)).1.symm

/-- The first response to a call is the one that its caller gets. -/
theorem Expects.answered (expects : source.Expects id ticket) (enabled : source.enabled = true)
    (payload : String) : (source.complete id payload).1.Answered id ticket payload := by
  have waits := (source.listens_complete id payload ticket).trans expects.waits
  have spares : (Posting.closed id (.completed payload)).Spares ticket := trivial
  have verdict : source.ledger.verdict ticket (.completed payload) =
      .resolved (.completed payload) := if_pos expects.waits
  have absent : (source.complete id payload).1.ledger.find? id = none := by
    rw [ledger_complete, if_pos enabled]
    exact (Ledger.find?_closed _).trans (if_pos rfl)
  refine ⟨absent, ?_, waits⟩
  rw [ledger_complete, if_pos enabled] at absent ⊢
  rcases Ledger.post_awaits expects.sound expects.awaits spares with
    still | withdrawn | ⟨closing, same, ended⟩
  · cases still.pending.symm.trans absent
  · cases withdrawn
  · cases same
    rwa [← verdict]

/-- A call is pending, and its caller waits, before its listener learns of it. -/
theorem expects_of_free (sound : source.ledger.Sound) (free : source.ledger.find? id = none)
    (now : Instant) : ((source.insert id).1.arm now id).Expects id source.nextTicket := by
  have entered := entered_of_free free now
  refine ⟨?_, ⟨?_, ?_⟩, ?_⟩
  · rw [ledger_arm, insert_eq, ledger_withLedger]
    exact sound.post (.entered id)
  · rw [entered.table, if_pos rfl]
  · simp [Ledger.reply?, ledger, entered.calls, nextTicket]
  · simp [listens, entered.calls, nextTicket]

theorem ledger_keep (source : Source) (listener : Listener) (event : Event) :
    (source.keep listener event).ledger = source.ledger := by
  rw [keep_eq]
  rfl

/-- Whether a call is pending is a matter of the ledger. -/
theorem Expects.congr {after : Source} (expects : source.Expects id ticket)
    (same : after.ledger = source.ledger) : after.Expects id ticket where
  sound := same ▸ expects.sound
  awaits := same ▸ expects.awaits
  waits := (congrArg (Ledger.listens · ticket) same).trans expects.waits

theorem Answered.congr {after : Source} (answered : source.Answered id ticket payload)
    (same : after.ledger = source.ledger) : after.Answered id ticket payload where
  absent := same ▸ answered.absent
  ended := same ▸ answered.ended
  waits := (congrArg (Ledger.listens · ticket) same).trans answered.waits

/-- What a caller has got stays, whatever other responses come. -/
theorem Answered.complete (answered : source.Answered id ticket payload) (other : CorrelationId)
    (another : String) : (source.complete other another).1.Answered id ticket payload where
  absent := by
    cases found : (source.complete other another).1.ledger.find? id with
    | none => rfl
    | some held =>
        have before := (source.spared_complete other another).table id held found
        cases before.symm.trans answered.absent
  ended := by
    rw [ledger_complete]
    exact answered.ended.postAll nofun _
  waits := (source.listens_complete other another ticket).trans answered.waits

/-- A caller who waits for a call that is completed sees the payload. -/
theorem poll_of_replied
    (replied : source.ledger.reply? ticket = some (.resolved (.completed payload)))
    (waits : source.listens ticket = true) :
    (source.poll ticket).2 = .outcome (.completed payload) := by
  rcases Option.map_eq_some_iff.mp replied with ⟨call, made, reply⟩
  have present : source.calls[ticket]? = some call := made
  have listening : call.listening = true := by simpa [listens, present] using waits
  simp [poll, present, Call.poll, reply, listening]

/-- Deadlines for an id that is not pending might as well not be handed out. -/
theorem expireAll_of_absent (absent : source.ledger.find? id = none) (expired : List Deadline) :
    source.expireAll expired =
      source.expireAll (expired.filter fun deadline => decide (deadline.id ≠ id)) := by
  induction expired generalizing source with
  | nil => rfl
  | cons deadline rest ih =>
      have later : (source.expire deadline.id).ledger.find? id = none := by
        rw [find?_expire, absent, ite_self]
      have tail := ih later
      change (source.expire deadline.id).expireAll rest = _
      by_cases same : deadline.id = id
      · -- The deadline is for the absent call and is left out of the list on the other side.
        have unchanged : source.expire deadline.id = source := by
          have held : source.pending.entries.find? deadline.id = none := by rwa [same]
          exact expire_eq_self (by simp [withdraw?, Pending.take?, held])
        rw [unchanged] at tail ⊢
        simpa [same] using tail
      · rw [tail]
        simp [same, expireAll]

/-- As long as calls can be accepted, the deadline task has not ended. -/
theorem TaskSound.alive (sound : source.TaskSound) (handled : source.handler.isSome = true)
    (kept : source.task.phase ≠ .dropped) :
    source.task.phase = .idle ∨ source.task.phase = .running := by
  have held := sound.held handled
  cases phase : source.task.phase with
  | idle => exact Or.inl rfl
  | running => exact Or.inr rfl
  | dropped => exact absurd phase kept
  | finished =>
      have none := (sound.sound.closed (sound.sound.ended phase).1).1
      omega

end Source

namespace Exchange

/-- A dispatch names an id of a source that takes responses. -/
def addresses (exchange : Exchange) (name : SourceName) (source : Source) (id : CorrelationId)
    (attempt : Dispatch) : Bool :=
  source.enabled && decide (exchange.destination? attempt = some (name, id))

variable {exchange : Exchange} {name : SourceName} {source : Source} {id : CorrelationId}
  {ticket : Ticket} {attempt : Dispatch} {payload : String}

/-! ## One reaction -/

/-- What a dispatch names depends on the registry, and on whether the source takes responses. -/
theorem addresses_congr {reacted : Exchange} {after : Source}
    (enabled : after.enabled = source.enabled) (same : reacted.registry = exchange.registry) :
    reacted.addresses name after id = exchange.addresses name source id := by
  funext attempt
  rw [addresses, addresses, enabled, destination?_congr same]

theorem expects_dispatch (found : exchange.sources.find? name = some source)
    (expects : source.Expects id ticket)
    (foreign : exchange.addresses name source id attempt = false) :
    ∃ after, (exchange.dispatch attempt).1.sources.find? name = some after ∧
      source.Spared after ∧ after.Expects id ticket := by
  rcases find?_dispatch attempt found with ⟨held, destination, reached⟩ | ⟨_, reached⟩
  · refine ⟨_, reached, source.spared_complete held attempt.payload, expects.complete ?_ _⟩
    rintro enabled rfl
    simp [addresses, enabled, destination] at foreign
  · exact ⟨source, reached, .refl source, expects⟩

theorem answered_of_addressed (found : exchange.sources.find? name = some source)
    (expects : source.Expects id ticket)
    (addressed : exchange.addresses name source id attempt = true) :
    ∃ after, (exchange.dispatch attempt).1.sources.find? name = some after ∧
      source.Spared after ∧ after.Answered id ticket attempt.payload := by
  rw [addresses, Bool.and_eq_true, decide_eq_true_eq] at addressed
  rcases find?_dispatch attempt found with ⟨held, destination, reached⟩ | ⟨elsewhere, _⟩
  · cases destination.symm.trans addressed.2
    exact ⟨_, reached, source.spared_complete id attempt.payload,
      expects.answered addressed.1 attempt.payload⟩
  · exact absurd addressed.2 (elsewhere id)

theorem answered_dispatch (found : exchange.sources.find? name = some source)
    (answered : source.Answered id ticket payload) (attempt : Dispatch) :
    ∃ after, (exchange.dispatch attempt).1.sources.find? name = some after ∧
      source.Spared after ∧ after.Answered id ticket payload := by
  rcases find?_dispatch attempt found with ⟨held, _, reached⟩ | ⟨_, reached⟩
  · exact ⟨_, reached, source.spared_complete held attempt.payload, answered.complete held _⟩
  · exact ⟨source, reached, .refl source, answered⟩

/-- A dispatch that names the call completes it as long as the call is pending. -/
theorem dispatch_of_expects (found : exchange.sources.find? name = some source)
    (expects : source.Expects id ticket)
    (addressed : exchange.addresses name source id attempt = true) :
    (exchange.dispatch attempt).2 = true := by
  rw [addresses, Bool.and_eq_true, decide_eq_true_eq] at addressed
  exact dispatch_iff.mpr
    ⟨name, source, id, ticket, addressed.2, found, addressed.1, expects.awaits.pending⟩

/-- A dispatch that names an id that is not pending changes nothing. -/
theorem dispatch_of_absent (found : exchange.sources.find? name = some source)
    (absent : source.ledger.find? id = none)
    (addressed : exchange.addresses name source id attempt = true) :
    exchange.dispatch attempt = (exchange, false) := by
  have missed : (exchange.dispatch attempt).2 = false := by
    rw [Bool.eq_false_iff]
    intro answered
    rcases dispatch_iff.mp answered with ⟨other, target, held, taken, reaches⟩
    rw [addresses, Bool.and_eq_true, decide_eq_true_eq] at addressed
    cases addressed.2.symm.trans reaches.destination
    cases found.symm.trans reaches.found
    cases absent.symm.trans reaches.pending
  exact Prod.ext (dispatch_eq_self missed) missed

/-! ## All reactions -/

theorem dispatchAll_append (exchange : Exchange) (earlier later : List Dispatch) :
    exchange.dispatchAll (earlier ++ later) =
      (((exchange.dispatchAll earlier).1.dispatchAll later).1,
        (exchange.dispatchAll earlier).2 ++
          ((exchange.dispatchAll earlier).1.dispatchAll later).2) := by
  induction earlier generalizing exchange with
  | nil => rfl
  | cons attempt rest ih => simp [dispatchAll, ih]

theorem length_dispatchAll (exchange : Exchange) (attempts : List Dispatch) :
    (exchange.dispatchAll attempts).2.length = attempts.length := by
  induction attempts generalizing exchange with
  | nil => rfl
  | cons attempt rest ih => simp [dispatchAll, ih]

theorem answer_dispatchAll (exchange : Exchange) (earlier : List Dispatch) (attempt : Dispatch)
    (later : List Dispatch) :
    (exchange.dispatchAll (earlier ++ attempt :: later)).2[earlier.length]? =
      some ((exchange.dispatchAll earlier).1.dispatch attempt).2 := by
  have last := exchange.length_dispatchAll earlier
  rw [dispatchAll_append, List.getElem?_append_right (Nat.le_of_eq last), last]
  simp [dispatchAll]

theorem answered_dispatchAll (found : exchange.sources.find? name = some source)
    (answered : source.Answered id ticket payload) (attempts : List Dispatch) :
    ∃ after, (exchange.dispatchAll attempts).1.sources.find? name = some after ∧
      source.Spared after ∧ after.Answered id ticket payload := by
  induction attempts generalizing exchange source with
  | nil => exact ⟨source, found, .refl source, answered⟩
  | cons attempt rest ih =>
      rcases answered_dispatch found answered attempt with ⟨middle, reached, first, still⟩
      rcases ih reached still with ⟨after, final, second, last⟩
      exact ⟨after, final, first.trans second, last⟩

/-- After dispatches of which none names a pending call, the call is still pending; otherwise the
first one that names it has completed it. -/
theorem expects_dispatchAll (found : exchange.sources.find? name = some source)
    (expects : source.Expects id ticket) (attempts : List Dispatch) :
    ∃ after, (exchange.dispatchAll attempts).1.sources.find? name = some after ∧
      source.Spared after ∧
        match attempts.find? (exchange.addresses name source id) with
        | none => after.Expects id ticket
        | some first => after.Answered id ticket first.payload := by
  induction attempts generalizing exchange source with
  | nil => exact ⟨source, found, .refl source, expects⟩
  | cons attempt rest ih =>
      -- The call leaves the first state for the second one at the first dispatch that names it.
      cases addressed : exchange.addresses name source id attempt with
      | true =>
          rcases answered_of_addressed found expects addressed with ⟨middle, reached, first, got⟩
          rcases answered_dispatchAll reached got rest with ⟨after, final, second, last⟩
          refine ⟨after, final, first.trans second, ?_⟩
          rwa [List.find?_cons_of_pos addressed]
      | false =>
          rcases expects_dispatch found expects addressed with ⟨middle, reached, first, still⟩
          rcases ih reached still with ⟨after, final, second, last⟩
          refine ⟨after, final, first.trans second, ?_⟩
          rw [addresses_congr first.enabled (exchange.dispatch_registry attempt)] at last
          rwa [List.find?_cons_of_neg (by simp [addressed])]

/-- Of the dispatches that name a pending call the first one completes it, and the others change
nothing. -/
theorem answers_dispatchAll (found : exchange.sources.find? name = some source)
    (expects : source.Expects id ticket) {attempts earlier later : List Dispatch}
    (split : attempts = earlier ++ attempt :: later)
    (addressed : exchange.addresses name source id attempt = true) :
    if earlier.any (exchange.addresses name source id) then
      (exchange.dispatchAll attempts).2[earlier.length]? = some false ∧
        ((exchange.dispatchAll earlier).1.dispatch attempt).1 = (exchange.dispatchAll earlier).1
    else (exchange.dispatchAll attempts).2[earlier.length]? = some true := by
  subst split
  rw [answer_dispatchAll]
  rcases expects_dispatchAll found expects earlier with ⟨middle, reached, spared, state⟩
  rw [← addresses_congr spared.enabled (exchange.registry_dispatchAll earlier)] at addressed
  have named : earlier.any (exchange.addresses name source id) =
      (earlier.find? (exchange.addresses name source id)).isSome := by
    rw [Bool.eq_iff_iff, List.any_eq_true, List.find?_isSome]
  rw [named]
  cases first : earlier.find? (exchange.addresses name source id) with
  | none =>
      rw [first] at state
      exact congrArg some (dispatch_of_expects reached state addressed)
  | some answered =>
      rw [first] at state
      rw [dispatch_of_absent reached state.absent addressed]
      exact ⟨rfl, rfl⟩

end Exchange

/-! ## Ids that are not used again -/

/-- A call is made and, unless it is refused, entered under an id. -/
def Occurrence.enters (id : CorrelationId) : Occurrence → Bool
  | .accept _ _ used => decide (used = id)
  | .insert used => decide (used = id)
  | _ => false

/-- A call is made to a source and, unless it is refused, entered under an id. -/
def Action.enters (name : SourceName) (id : CorrelationId) : Action → Bool
  | .handle other _ _ used => decide (other = name ∧ used = id)
  | .insert other used => decide (other = name ∧ used = id)
  | _ => false

theorem Occurrence.enters_of_ordinary {occurrence : Occurrence}
    (quiet : occurrence.isOrdinary = true ∧ occurrence.minted? = none) (id : CorrelationId) :
    occurrence.enters id = false := by
  cases occurrence with
  | accept payload metadata used => cases quiet.2
  | insert used => cases quiet.1
  | _ => rfl

namespace Snapshot

variable {snapshot : Snapshot} {id : CorrelationId}

theorem enters_of_entered {occurrence : Occurrence}
    (entered : .entered id ∈ snapshot.source.postings snapshot.now occurrence) :
    occurrence.enters id = true := by
  have alone := postings_of_entered entered
  cases occurrence with
  | accept payload metadata used =>
      rcases mem_postings_accept entered with ⟨status, absurd⟩ | same
      · cases absurd
      · cases same
        simp [Occurrence.enters]
  | complete used payload => cases (mem_postings_complete entered).2
  | fire =>
      rcases mem_postings_fire entered with ⟨deadline, _, absurd⟩
      cases absurd
  | _ => simp_all [Source.postings, Occurrence.enters]

theorem find?_undergoAll_of_absent (absent : snapshot.source.ledger.find? id = none)
    {run : List Occurrence} (unused : ∀ occurrence ∈ run, occurrence.enters id = false) :
    (snapshot.undergoAll run).source.ledger.find? id = none := by
  induction run generalizing snapshot with
  | nil => exact absent
  | cons occurrence rest ih =>
      apply ih ?_ fun other member => unused other (List.mem_cons_of_mem _ member)
      cases found : (snapshot.undergo occurrence).source.ledger.find? id with
      | none => rfl
      | some ticket =>
          rcases find?_undergo found with before | ⟨entered, _⟩
          · cases before.symm.trans absent
          · have enters := enters_of_entered (by rw [entered]; exact List.mem_cons_self)
            rw [unused occurrence List.mem_cons_self] at enters
            cases enters

end Snapshot

namespace Exchange

variable {exchange : Exchange} {name : SourceName} {source : Source} {handler : Handler}
  {metadata : Metadata} {id : CorrelationId} {ticket : Ticket} {payload : String}

theorem enters_occurrences {action : Action} (unused : action.enters name id = false) :
    ∀ occurrence ∈ exchange.occurrences name action, occurrence.enters id = false := by
  intro occurrence member
  cases action with
  | handle other payload metadata used =>
      rcases mem_occurrences_handle member with ⟨rfl, rfl⟩ | quiet
      · simpa [Action.enters, Occurrence.enters] using unused
      · exact Occurrence.enters_of_ordinary quiet id
  | insert other used =>
      rcases mem_forSource member with ⟨rfl, rfl⟩
      simpa [Action.enters, Occurrence.enters] using unused
  | dispatch attempt => exact Occurrence.enters_of_ordinary (mem_completions member) id
  | echo other => exact Occurrence.enters_of_ordinary (mem_occurrences_echo member) id
  | advance duration =>
      rw [List.mem_singleton.mp member]
      rfl
  | register other => cases member
  | deregister sourceId => cases member
  | _ =>
      rw [(mem_forSource member).1]
      rfl

theorem enters_chronicle {actions : List Action}
    (unused : ∀ action ∈ actions, action.enters name id = false) :
    ∀ occurrence ∈ exchange.chronicle name actions, occurrence.enters id = false := by
  induction actions generalizing exchange with
  | nil => exact nofun
  | cons action rest ih =>
      intro occurrence member
      rcases List.mem_append.mp member with here | later
      · exact enters_occurrences (unused action List.mem_cons_self) occurrence here
      · exact ih (fun other among => unused other (List.mem_cons_of_mem _ among)) occurrence later

end Exchange

/-- A call that was pending under an id has been completed for good: if its caller still waits, it
gets the payload, and it makes no difference whether a deadline for the id is handed out. -/
structure Source.Over (source : Source) (now : Instant) (id : CorrelationId) (ticket : Ticket)
    (payload : String) : Prop where
  absent : source.ledger.find? id = none
  received : source.listens ticket = true →
    (source.poll ticket).2 = .outcome (.completed payload)
  fired : ∀ expired task, source.task.fire? now = some (expired, task) →
    source.fire? now = some ((source.withTask task).expireAll
      (expired.filter fun deadline => decide (deadline.id ≠ id)))

theorem Source.over_of_replied {source : Source} {id : CorrelationId} {ticket : Ticket}
    {payload : String} (absent : source.ledger.find? id = none)
    (replied : source.ledger.reply? ticket = some (.resolved (.completed payload)))
    (now : Instant) : source.Over now id ticket payload where
  absent := absent
  received waits := poll_of_replied replied waits
  fired expired task handed := by
    have still : (source.withTask task).ledger.find? id = none := absent
    rw [fire?, handed, Option.map_some]
    exact congrArg some (expireAll_of_absent still expired)

namespace Exchange

variable {exchange : Exchange} {name : SourceName} {source : Source} {handler : Handler}
  {metadata : Metadata} {id : CorrelationId} {ticket : Ticket}

/-- Once a call has been completed, it stays so as long as its id is not used again. -/
theorem over_performAll {payload : String} (found : exchange.sources.find? name = some source)
    (answered : source.Answered id ticket payload) {actions : List Action}
    (unused : ∀ action ∈ actions, action.enters name id = false) :
    ∃ final, (exchange.performAll actions).1.sources.find? name = some final ∧
      final.Over (exchange.performAll actions).1.now id ticket payload := by
  have law := exchange.snapshot?_performAll name actions
  have began : exchange.snapshot? name = some ⟨exchange.now, source⟩ := by
    rw [snapshot?, found, Option.map_some]
  rw [began, Option.map_some] at law
  rcases Option.map_eq_some_iff.mp law with ⟨final, reached, same⟩
  have last : ((⟨exchange.now, source⟩ : Snapshot).undergoAll
      (exchange.chronicle name actions)).source = final := (congrArg Snapshot.source same).symm
  refine ⟨final, reached, ?_⟩
  rw [← last]
  apply Source.over_of_replied
  · exact Snapshot.find?_undergoAll_of_absent answered.absent (enters_chronicle unused)
  · refine (Snapshot.undergoAll_ended ?_ ?_ id (exchange.chronicle name actions)).2.replied
    · exact answered.ended
    · simp

theorem sound_performAll {start : Snapshot} (began : exchange.snapshot? name = some start)
    (new : start.source.IsNew) {actions : List Action}
    (found : (exchange.performAll actions).1.sources.find? name = some source) :
    source.ledger.Sound ∧ source.TaskSound := by
  have empty : start.source.ledger.Sound :=
    Ledger.sound_of_empty (by rw [Source.ledger, new.pending])
  rcases exists_start found with ⟨first, here, rfl⟩
  cases began.symm.trans here
  exact ⟨Snapshot.sound_undergoAll empty _,
    Snapshot.taskSound_undergoAll (Source.taskSound_of_new new.task) _⟩

/-- In any run of the source a call is accepted under a fresh id, and while the listener has its
event it makes any dispatches it likes. No response comes too early: the first of them that names
the call completes it, and the others that name it do nothing. If there is none, the call is
pending when the listener returns. In each case the deadline is armed, but once the call has been
completed it comes to nothing, as long as the id is not used again. -/
theorem reactions_in_time {start : Snapshot} (began : exchange.snapshot? name = some start)
    (new : start.source.IsNew) {past : List Action}
    (found : (exchange.performAll past).1.sources.find? name = some source)
    (handled : source.handler = some handler) {properties : List String}
    (resolved : handler.properties metadata id = .ok properties)
    (fresh : source.ledger.find? id = none) (payload : String) :
    let present := (exchange.performAll past).1
    let attempts := handler.listener.reactions ⟨payload, properties⟩
    let addressed := present.addresses name source id
    let own : Deadline := ⟨present.now + source.timeout.nanoseconds, id⟩
    let entered := present.setSource name ((source.insert id).1.arm present.now id)
    ∃ after answers last,
      present.handle? name payload metadata id =
          some (after, ⟨source.nextTicket, true, answers⟩) ∧
        after.sources.find? name = some last ∧
        last.task = source.task.arm own ∧
        (source.task.phase ≠ .dropped → own ∈ last.task.outstanding) ∧
        (∀ earlier attempt later, attempts = earlier ++ attempt :: later →
          addressed attempt = true →
            if earlier.any addressed then
              answers[earlier.length]? = some false ∧
                ((entered.dispatchAll earlier).1.dispatch attempt).1 =
                  (entered.dispatchAll earlier).1
            else answers[earlier.length]? = some true) ∧
        match attempts.find? addressed with
        | none => last.Expects id source.nextTicket
        | some first => last.Answered id source.nextTicket first.payload ∧
            ∀ later : List Action, (∀ action ∈ later, action.enters name id = false) →
              ∃ final, (after.performAll later).1.sources.find? name = some final ∧
                final.Over (after.performAll later).1.now id source.nextTicket
                  first.payload := by
  intro present attempts addressed own entered
  have sound := sound_performAll began new found
  have call := Source.entered_of_free fresh present.now
  have expects := Source.expects_of_free sound.1 fresh present.now
  have placed : entered.sources.find? name =
      some ((source.insert id).1.arm present.now id) := by
    simp [entered]
  have same : entered.addresses name ((source.insert id).1.arm present.now id) id = addressed :=
    addresses_congr (by rw [call.rest]) rfl
  have free := Source.refusal?_of_free resolved fresh
  rcases expects_dispatchAll placed expects attempts with ⟨reacted, reached, spared, state⟩
  have task : (reacted.keep handler.listener ⟨payload, properties⟩).task =
      source.task.arm own := by
    rw [Source.keep_eq]
    exact (congrArg Source.task spared.rest).trans call.armed
  refine ⟨_, _, _, handle?_of_free found handled resolved free payload, find?_notify reached, task,
    ?_, ?_, ?_⟩
  · intro kept
    have alive := sound.2.alive (by rw [handled]; rfl) kept
    rw [task, ← call.armed]
    exact (call.outstanding alive).mem_iff.mpr (List.mem_append_right _ List.mem_cons_self)
  · intro earlier attempt later split named
    rw [← same] at named ⊢
    exact answers_dispatchAll placed expects split named
  · rw [same] at state
    cases first : attempts.find? addressed with
    | none =>
        rw [first] at state
        exact state.congr (reacted.ledger_keep _ _)
    | some attempt =>
        rw [first] at state
        have answered := state.congr (reacted.ledger_keep handler.listener ⟨payload, properties⟩)
        exact ⟨answered, fun later unused => over_performAll (find?_notify reached) answered unused⟩

/-- A listener responds to a call that does not exist, then to the call at hand, and then to that
call once more through the registry. -/
theorem reactions_in_time_of_eager_listener :
    let attempts : List Dispatch :=
      [.typed "a" ⟨8⟩ "stray", .typed "a" ⟨7⟩ "first",
        .registered "echo" (⟨7⟩ : CorrelationId).text "second"]
    let handler : Handler := { listener := { reactions := fun _ => attempts } }
    let source : Source := { id := "echo", timeout := ⟨5⟩, handler := some handler }
    let running : Source := { source with task := { phase := .running } }
    let exchange : Exchange := { sources := Directory.ofList [("a", source)] }
    let past : List Action := [.register "a", .spawn "a"]
    let present := (exchange.performAll past).1
    exchange.snapshot? "a" = some ⟨0, source⟩ ∧ source.IsNew ∧
      present.sources.find? "a" = some running ∧ running.handler = some handler ∧
      handler.properties Directory.empty ⟨7⟩ = .ok [(⟨7⟩ : CorrelationId).text] ∧
      running.ledger.find? ⟨7⟩ = none ∧
      ∃ after answers last,
        present.handle? "a" "in" Directory.empty ⟨7⟩ = some (after, ⟨0, true, answers⟩) ∧
          after.sources.find? "a" = some last ∧ answers[1]? = some true ∧
          answers[2]? = some false ∧ last.Answered ⟨7⟩ 0 "first" ∧
          ⟨5, ⟨7⟩⟩ ∈ last.task.outstanding := by
  intro attempts handler source running exchange past present
  have began : exchange.snapshot? "a" = some ⟨0, source⟩ := rfl
  have new : source.IsNew := ⟨rfl, rfl, rfl⟩
  have found : present.sources.find? "a" = some running := rfl
  have resolved : handler.properties Directory.empty ⟨7⟩ =
    .ok [(⟨7⟩ : CorrelationId).text] := rfl
  have fresh : running.ledger.find? ⟨7⟩ = none := rfl
  have named : present.addresses "a" running ⟨7⟩
      (.registered "echo" (⟨7⟩ : CorrelationId).text "second") = true := by
    have holder : present.registry.find? "echo" = some "a" := rfl
    simp [addresses, destination?, holder, CorrelationId.parse?_text, running, source]
  rcases reactions_in_time began new found rfl resolved fresh "in" with
    ⟨after, answers, last, done, reached, _, armed, answered, ended⟩
  have second := answered (attempts.take 2) _ [] rfl named
  exact ⟨began, new, found, rfl, resolved, fresh, after, answers, last, done, reached,
    answered (attempts.take 1) _ (attempts.drop 2) rfl rfl, second.1, ended.1,
    armed (by simp [running])⟩

end Exchange

end Rendezvous
