import Mathlib.Logic.ExistsUnique
import Rendezvous.Proofs.Acceptance
import Rendezvous.Proofs.Completion

/-!
# Calls are handled completely or not at all

A call that is made to a source is entered, its deadline is armed, and the listener gets its event;
or its transport properties cannot be found, or its id is taken, and then it is refused and nothing
else happens. `Exchange.handled_all_or_nothing` says that one of the three takes place, whatever the
state of the source is. What the transport properties of a call are, or why there are none, is up to
the augmentation of the source (`Handler.Resolves`).
-/

namespace Rendezvous

namespace Handler

variable {handler : Handler} {metadata : Metadata} {id : CorrelationId}
  {found : Except HeaderError (List String)}

/-- What is found as the transport properties of a call. -/
inductive Resolves (handler : Handler) (metadata : Metadata) (id : CorrelationId) :
    Except HeaderError (List String) → Prop
  /-- Without an augmentation the text of the id is the only one. -/
  | alone (plain : handler.augmentation = none) : Resolves handler metadata id (.ok [id.text])
  /-- An augmentation takes what it requests from the header string, or fails. -/
  | extracted {augmentation : Augmentation} (augmented : handler.augmentation = some augmentation) :
      Resolves handler metadata id
        (augmentation.extract (metadata.headerString id) augmentation.requested)

theorem resolves_iff :
    handler.Resolves metadata id found ↔ handler.properties metadata id = found := by
  constructor
  · intro resolves
    cases resolves with
    | alone plain => simp [properties, plain]
    | extracted augmented => simp [properties, augmented, Augmentation.properties]
  · rintro rfl
    cases augmented : handler.augmentation with
    | none =>
        rw [properties, augmented]
        exact .alone augmented
    | some augmentation =>
        rw [properties, augmented]
        exact .extracted augmented

end Handler

/-- What can become of a call that is made to a source. -/
inductive Fate
  | accepted
  /-- The transport properties are not found. -/
  | unreadable
  /-- Another call is pending under the id. -/
  | duplicate
deriving DecidableEq, Repr

namespace Source

/-- What becomes of a call that is made to the source. -/
def fate (source : Source) (handler : Handler) (metadata : Metadata) (id : CorrelationId) : Fate :=
  match handler.properties metadata id with
  | .error _ => .unreadable
  | .ok _ => if source.pending.contains id then .duplicate else .accepted

/-- A call has been made and entered under an id that was free, and its deadline has been armed. -/
structure Entered (source : Source) (now : Instant) (id : CorrelationId) (after : Source) :
    Prop where
  free : source.ledger.find? id = none
  table : ∀ other, after.ledger.find? other =
    if other = id then some source.nextTicket else source.ledger.find? other
  size : after.pending.size = source.pending.size + 1
  tally : after.pending.tally =
    { source.pending.tally with registered := source.pending.tally.registered + 1 }
  calls : after.calls = source.calls ++ [({} : Call)]
  armed : after.task = source.task.arm ⟨now + source.timeout.nanoseconds, id⟩
  /-- A task that has neither ended nor been given up has one deadline more to hand out. -/
  outstanding : source.task.phase = .idle ∨ source.task.phase = .running →
    after.task.outstanding.Perm
      (source.task.outstanding ++ [⟨now + source.timeout.nanoseconds, id⟩])
  rest : after =
    { source with pending := after.pending, calls := after.calls, task := after.task }

/-- A call has been made and refused with a status. -/
structure Refused (source : Source) (handler : Handler) (status : CallStatus) (after : Source) :
    Prop where
  /-- The caller sees the status. -/
  told : (after.poll source.nextTicket).2 = .outcome (.failed status)
  earlier : ∀ (ticket : Ticket) call, source.calls[ticket]? = some call →
    after.calls[ticket]? = some call
  counted : after.rejected? = some (handler.rejected + 1)
  /-- The table, its tally, the deadlines and the events are what they were. -/
  rest : after = { source with calls := after.calls, handler := some handler.countRejected }

variable {source : Source} {handler : Handler} {metadata : Metadata} {id : CorrelationId}

theorem keep_eq (source : Source) (listener : Listener) (event : Event) :
    source.keep listener event =
      { source with events := source.events ++ if listener.keeps then [event] else [] } := by
  cases keeps : listener.keeps <;> simp [keep, keeps]

theorem entered_of_free (free : source.ledger.find? id = none) (now : Instant) :
    source.Entered now id ((source.insert id).1.arm now id) := by
  have vacant : source.pending.entries.find? id = none := free
  have untaken := contains_eq_false_iff.mpr free
  have entered : source.insert id =
      ({ source.openCall with
        pending := ⟨source.pending.entries.put id source.nextTicket,
          source.pending.tally.countRegistered⟩ }, .ok source.nextTicket) := by
    simp [insert, Pending.insert, untaken]
  rw [entered]
  refine ⟨free, ?_, ?_, rfl, rfl, rfl, DeadlineTask.outstanding_arm _, rfl⟩
  · intro other
    exact Directory.find?_put _ _ _ _
  · have size := source.pending.entries.size_put id source.nextTicket
    rw [Directory.contains, vacant] at size
    exact size

theorem refused_refuse (source : Source) (handler : Handler) (status : CallStatus) :
    source.Refused handler status (source.refuse handler status) := by
  rw [refuse_eq]
  refine ⟨?_, ?_, rfl, rfl⟩
  · simp [poll, nextTicket, withLedger, ledger, Ledger.post, Call.poll]
  · intro ticket call made
    have early : ticket < source.calls.length := (List.getElem?_eq_some_iff.mp made).1
    simpa [withLedger, ledger, Ledger.post, List.getElem?_append_left early] using made

theorem refusal?_of_error {error : HeaderError}
    (unresolved : handler.properties metadata id = .error error) :
    source.refusal? handler metadata id = some .dataLoss := by
  simp [refusal?, unresolved]

theorem refusal?_of_taken {properties : List String} {ticket : Ticket}
    (resolved : handler.properties metadata id = .ok properties)
    (held : source.ledger.find? id = some ticket) :
    source.refusal? handler metadata id = some .internal := by
  simp [refusal?, resolved, contains_iff.mpr ⟨ticket, held⟩]

theorem refusal?_of_free {properties : List String}
    (resolved : handler.properties metadata id = .ok properties)
    (free : source.ledger.find? id = none) : source.refusal? handler metadata id = none := by
  simp [refusal?, resolved, contains_eq_false_iff.mpr free]

end Source

namespace Exchange

variable {exchange : Exchange} {name : SourceName} {source : Source} {handler : Handler}
  {metadata : Metadata} {id : CorrelationId}

theorem handle?_of_refusal {status : CallStatus}
    (found : exchange.sources.find? name = some source) (handled : source.handler = some handler)
    (refusal : source.refusal? handler metadata id = some status) (payload : String) :
    exchange.handle? name payload metadata id =
      some (exchange.setSource name (source.refuse handler status),
        ⟨source.nextTicket, false, []⟩) := by
  simp [handle?, found, handled, Source.accept_eq, refusal]

theorem handle?_of_free {properties : List String}
    (found : exchange.sources.find? name = some source) (handled : source.handler = some handler)
    (resolved : handler.properties metadata id = .ok properties)
    (free : source.refusal? handler metadata id = none) (payload : String) :
    exchange.handle? name payload metadata id =
      let entered := exchange.setSource name ((source.insert id).1.arm exchange.now id)
      let notified := entered.notify name handler.listener ⟨payload, properties⟩
      some (notified.1, ⟨source.nextTicket, true, notified.2⟩) := by
  simp [handle?, found, handled, Source.accept_eq, free, resolved, Except.toOption]

/-- After a listener has reacted to an event, the event is kept. -/
theorem notify_of_reached {listener : Listener} {event : Event}
    (reached : (exchange.dispatchAll (listener.reactions event)).1.sources.find? name =
      some source) :
    (exchange.notify name listener event).1 =
      (exchange.dispatchAll (listener.reactions event)).1.setSource name
        (source.keep listener event) := by
  simp only [notify, changeSource, reached]

theorem find?_notify {listener : Listener} {event : Event}
    (reached : (exchange.dispatchAll (listener.reactions event)).1.sources.find? name =
      some source) :
    (exchange.notify name listener event).1.sources.find? name =
      some (source.keep listener event) := by
  simp [notify_of_reached reached]

/-- A call is accepted. It is entered, and then the listener gets its event, once: it makes its
dispatches and keeps the event if it keeps any. Whatever it dispatches before it returns, the call
stays counted and its deadline armed. -/
structure Accepts (before : Exchange) (name : SourceName) (source : Source) (handler : Handler)
    (id : CorrelationId) (event : Event) (after : Exchange) (receipt : Receipt) : Prop where
  notified : ∃ entered reacted last, source.Entered before.now id entered ∧
    (before.setSource name entered).dispatchAll (handler.listener.reactions event) =
      (reacted, receipt.answers) ∧
    reacted.sources.find? name = some last ∧
    after = reacted.setSource name
      { last with events := last.events ++ if handler.listener.keeps then [event] else [] }
  receipt : receipt.ticket = source.nextTicket ∧ receipt.accepted = true
  returned : ∃ last, after.sources.find? name = some last ∧
    last.pending.tally.registered = source.pending.tally.registered + 1 ∧
    last.task = source.task.arm ⟨before.now + source.timeout.nanoseconds, id⟩ ∧
    last.handler = some handler ∧
    last.events = source.events ++ if handler.listener.keeps then [event] else []

/-- A call is refused with a status, and the listener gets nothing. -/
structure Refuses (before : Exchange) (name : SourceName) (source : Source) (handler : Handler)
    (status : CallStatus) (after : Exchange) (receipt : Receipt) : Prop where
  refused : ∃ refused, source.Refused handler status refused ∧
    after = before.setSource name refused
  receipt : receipt = ⟨source.nextTicket, false, []⟩

/-- A call meets a fate. -/
def Meets (before : Exchange) (name : SourceName) (source : Source) (handler : Handler)
    (payload : String) (metadata : Metadata) (id : CorrelationId) (after : Exchange)
    (receipt : Receipt) : Fate → Prop
  | .accepted => ∃ properties, handler.Resolves metadata id (.ok properties) ∧
      before.Accepts name source handler id ⟨payload, properties⟩ after receipt
  | .unreadable => (∃ error, handler.Resolves metadata id (.error error)) ∧
      before.Refuses name source handler .dataLoss after receipt
  | .duplicate => (∃ properties, handler.Resolves metadata id (.ok properties)) ∧
      (∃ earlier, source.ledger.find? id = some earlier) ∧
      before.Refuses name source handler .internal after receipt

theorem accepts_handle {properties : List String} (handled : source.handler = some handler)
    (free : source.ledger.find? id = none) (payload : String) :
    let entered := exchange.setSource name ((source.insert id).1.arm exchange.now id)
    let notified := entered.notify name handler.listener ⟨payload, properties⟩
    exchange.Accepts name source handler id ⟨payload, properties⟩ notified.1
      ⟨source.nextTicket, true, notified.2⟩ := by
  intro entered notified
  have call := Source.entered_of_free free exchange.now
  have placed : entered.sources.find? name = some ((source.insert id).1.arm exchange.now id) := by
    simp [entered]
  rcases spared_dispatchAll (handler.listener.reactions ⟨payload, properties⟩) placed with
    ⟨reacted, reached, spared⟩
  have told := notify_of_reached reached
  have final := find?_notify reached
  rw [Source.keep_eq] at told final
  have registered : reacted.pending.tally.registered = _ :=
    spared.registered.trans (congrArg Tally.registered call.tally)
  have armed : reacted.task = _ := (congrArg Source.task spared.rest).trans call.armed
  have kept : ((source.insert id).1.arm exchange.now id).handler = source.handler ∧
      ((source.insert id).1.arm exchange.now id).events = source.events := by
    rw [call.rest]
    exact ⟨rfl, rfl⟩
  have same : reacted.handler = source.handler :=
    (congrArg Source.handler spared.rest).trans kept.1
  have events : reacted.events = source.events :=
    (congrArg Source.events spared.rest).trans kept.2
  refine ⟨⟨_, _, reacted, call, rfl, reached, told⟩, ⟨rfl, rfl⟩, _, final, registered, armed,
    same.trans handled, ?_⟩
  rw [events]

theorem exists_meets_fate (found : exchange.sources.find? name = some source)
    (handled : source.handler = some handler) (payload : String) (metadata : Metadata)
    (id : CorrelationId) :
    ∃ after receipt, exchange.handle? name payload metadata id = some (after, receipt) ∧
      exchange.Meets name source handler payload metadata id after receipt
        (source.fate handler metadata id) := by
  cases resolved : handler.properties metadata id with
  | error error =>
      have refusal := source.refusal?_of_error resolved
      refine ⟨_, _, handle?_of_refusal found handled refusal payload, ?_⟩
      simp only [Source.fate, resolved, Meets]
      exact ⟨⟨error, Handler.resolves_iff.mpr resolved⟩,
        ⟨_, source.refused_refuse handler .dataLoss, rfl⟩, rfl⟩
  | ok properties =>
      cases held : source.ledger.find? id with
      | some earlier =>
          have refusal := Source.refusal?_of_taken resolved held
          have taken := Source.contains_iff.mpr ⟨earlier, held⟩
          refine ⟨_, _, handle?_of_refusal found handled refusal payload, ?_⟩
          simp only [Source.fate, resolved, taken, if_true, Meets]
          exact ⟨⟨properties, Handler.resolves_iff.mpr resolved⟩, ⟨earlier, held⟩,
            ⟨_, source.refused_refuse handler .internal, rfl⟩, rfl⟩
      | none =>
          have free := Source.refusal?_of_free resolved held
          have untaken := Source.contains_eq_false_iff.mpr held
          refine ⟨_, _, handle?_of_free found handled resolved free payload, ?_⟩
          simp only [Source.fate, resolved, untaken, Meets]
          exact ⟨properties, Handler.resolves_iff.mpr resolved, accepts_handle handled held payload⟩

theorem Meets.eq_fate {payload : String} {after : Exchange} {receipt : Receipt} {fate : Fate}
    (meets : exchange.Meets name source handler payload metadata id after receipt fate) :
    fate = source.fate handler metadata id := by
  cases fate with
  | accepted =>
      rcases meets with ⟨properties, resolves, accepts⟩
      rcases accepts.notified with ⟨_, _, _, entered, _⟩
      simp [Source.fate, Handler.resolves_iff.mp resolves,
        Source.contains_eq_false_iff.mpr entered.free]
  | unreadable =>
      rcases meets with ⟨⟨error, fails⟩, _⟩
      simp [Source.fate, Handler.resolves_iff.mp fails]
  | duplicate =>
      rcases meets with ⟨⟨properties, resolves⟩, taken, _⟩
      simp [Source.fate, Handler.resolves_iff.mp resolves, Source.contains_iff.mpr taken]

/-- Whatever the state of a source is, and whatever its augmentation takes from the metadata, a call
that is made to it under an id meets exactly one of three fates. -/
theorem handled_all_or_nothing (found : exchange.sources.find? name = some source)
    (handled : source.handler = some handler) (payload : String) (metadata : Metadata)
    (id : CorrelationId) :
    ∃ after receipt, exchange.handle? name payload metadata id = some (after, receipt) ∧
      ∃! fate, exchange.Meets name source handler payload metadata id after receipt fate := by
  rcases exists_meets_fate found handled payload metadata id with ⟨after, receipt, done, meets⟩
  exact ⟨after, receipt, done, _, meets, fun _ also => also.eq_fate⟩

/-- Of the calls to a source that requests the id and a tenant, the first is accepted, another one
under its id is refused, and so is one that names no tenant. -/
theorem handled_all_or_nothing_of_tenant :
    let handler : Handler :=
      { augmentation := some ⟨QuotedList.extract, ["messageId", "tenant"]⟩, listener := {} }
    let idle : Source := { id := "idle", timeout := ⟨5⟩, handler := some handler }
    let busy : Source :=
      { idle with
        calls := [{}]
        pending := ⟨Directory.ofList [(⟨7⟩, 0)], { registered := 1 }⟩ }
    let exchange : Exchange := { sources := Directory.ofList [("idle", idle), ("busy", busy)] }
    let blue := Metadata.ofFields [("tenant", .ofString "blue")]
    (∃ after receipt, exchange.handle? "idle" "hello" blue ⟨7⟩ = some (after, receipt) ∧
      exchange.Accepts "idle" idle handler ⟨7⟩ ⟨"hello", [CorrelationId.text ⟨7⟩, "blue"]⟩ after
        receipt) ∧
    (∃ after receipt, exchange.handle? "busy" "again" blue ⟨7⟩ = some (after, receipt) ∧
      exchange.Refuses "busy" busy handler .internal after receipt) ∧
    ∃ after receipt, exchange.handle? "idle" "hello" Directory.empty ⟨7⟩ = some (after, receipt) ∧
      exchange.Refuses "idle" idle handler .dataLoss after receipt := by
  intro handler idle busy exchange blue
  have read : (handler.properties blue ⟨7⟩).toOption = some [CorrelationId.text ⟨7⟩, "blue"] := by
    decide +kernel
  have first : exchange.sources.find? "idle" = some idle := rfl
  have second : exchange.sources.find? "busy" = some busy := rfl
  refine ⟨?_, ?_, ?_⟩
  · rcases handled_all_or_nothing first rfl "hello" blue ⟨7⟩ with
      ⟨after, receipt, done, fate, meets, _⟩
    have met : fate = .accepted := meets.eq_fate.trans (by decide +kernel)
    subst met
    rcases meets with ⟨properties, resolves, accepts⟩
    have found := congrArg Except.toOption (Handler.resolves_iff.mp resolves)
    cases read.symm.trans found
    exact ⟨after, receipt, done, accepts⟩
  · rcases handled_all_or_nothing second rfl "again" blue ⟨7⟩ with
      ⟨after, receipt, done, fate, meets, _⟩
    have met : fate = .duplicate := meets.eq_fate.trans (by decide +kernel)
    subst met
    exact ⟨after, receipt, done, meets.2.2⟩
  · rcases handled_all_or_nothing first rfl "hello" Directory.empty ⟨7⟩ with
      ⟨after, receipt, done, fate, meets, _⟩
    have met : fate = .unreadable := meets.eq_fate.trans (by decide +kernel)
    subst met
    exact ⟨after, receipt, done, meets.2⟩

end Exchange

end Rendezvous
