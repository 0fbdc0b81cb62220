import Rendezvous.Proofs.Http.Response
import Rendezvous.Proofs.Ingress.Standing
import Rendezvous.Proofs.Ledger.Removal

/-!
# What becomes of a request

A request that comes in during a run is turned away, or it makes a call. A call that is registered
waits in the table until it is settled, and one that is not registered is refused. The response to
the request, once there is one, is by one of these (`Gateway.Arrival.answered`).
-/

namespace Rendezvous

/-! ## Responses to requests that make no call -/

namespace Ingress.TurnsAway

variable {ingress : Ingress} {response : Http.Response}

theorem mono {after : Ingress} (turned : ingress.TurnsAway response)
    (continues : ingress.Continues after) : after.TurnsAway response := by
  cases turned with
  | forced raised => exact .forced (continues.raised raised)
  | refused reason => exact .refused reason
  | faulty reason => exact .faulty reason

theorem status_ne (turned : ingress.TurnsAway response) : response.status ≠ 200 := by
  cases turned with
  | forced raised => exact Http.Response.status_ofStatus_ne _
  | refused reason => exact Http.Response.status_ofStatus_ne _
  | faulty reason =>
      rintro rfl
      simp at reason

theorem of_ofStatus {status : CallStatus} (turned : ingress.TurnsAway (.ofStatus status)) :
    (status = .unavailable ∧ ingress.signal.raised = true) ∨
      status ∈ [CallStatus.resourceExhausted, .messageTooLarge, .internal] := by
  generalize same : Http.Response.ofStatus status = response at turned
  cases turned with
  | forced raised => exact Or.inl ⟨Http.Response.ofStatus_injective same, raised⟩
  | refused reason => exact Or.inr (Http.Response.ofStatus_injective same ▸ reason)
  | faulty reason => cases congrArg Http.Response.contentType same

end Ingress.TurnsAway

namespace Gateway

/-! ## Ordinary runs -/

/-- A run of the built-in service of a new source, whose signal has not been raised yet, in which
nobody works on the table by hand and no two calls are made under one id. -/
structure OrdinaryRun (start : Gateway) (first : Snapshot) (incidents : List Incident) : Prop where
  present : start.snapshot? = some first
  new : first.source.IsNew
  builtIn : ∃ path, start.ingress.service = .builtIn path
  calm : start.ingress.signal.raised = false
  ordinary : ∀ incident ∈ incidents, incident.isOrdinary start.ingress.source = true
  distinct : (incidents.filterMap (Incident.minted? start.ingress.source)).Nodup

/-- A signal that is raised was raised before or is raised in the run. -/
theorem force_of_raised {gateway : Gateway} {incidents : List Incident}
    (raised : (gateway.undergoAll incidents).ingress.signal.raised = true) :
    gateway.ingress.signal.raised = true ∨ .force ∈ incidents := by
  induction incidents generalizing gateway with
  | nil => exact Or.inl raised
  | cons incident rest ih =>
      rcases ih raised with here | later
      · by_cases force : incident = .force
        · exact Or.inr (force ▸ List.mem_cons_self)
        · exact Or.inl (gateway.signal_undergo force ▸ here)
      · exact Or.inr (List.mem_cons_of_mem _ later)

namespace OrdinaryRun

variable {start : Gateway} {first : Snapshot} {incidents earlier later : List Incident}

theorem prefix_of_append (run : start.OrdinaryRun first (earlier ++ later)) :
    start.OrdinaryRun first earlier where
  present := run.present
  new := run.new
  builtIn := run.builtIn
  calm := run.calm
  ordinary := fun incident member => run.ordinary incident (List.mem_append_left _ member)
  distinct := run.distinct.sublist ((List.sublist_append_left _ _).filterMap _)

theorem present_undergoAll (run : start.OrdinaryRun first incidents) :
    (start.undergoAll incidents).snapshot? =
      some (first.undergoAll (start.chronicle incidents)) := by
  rw [snapshot?_undergoAll, run.present, Option.map_some]

theorem ordinary_chronicle (run : start.OrdinaryRun first incidents) :
    ∀ occurrence ∈ start.chronicle incidents, occurrence.isOrdinary = true :=
  fun _ member => Gateway.ordinary_chronicle run.ordinary member

theorem distinct_chronicle (run : start.OrdinaryRun first incidents) :
    ((start.chronicle incidents).filterMap Occurrence.minted?).Nodup :=
  run.distinct.sublist (start.minted_chronicle incidents)

theorem absent (run : start.OrdinaryRun first incidents) (id : CorrelationId) :
    first.source.ledger.find? id = none := by
  simp [Source.ledger, Ledger.find?, run.new.pending]

theorem sound (run : start.OrdinaryRun first incidents) : first.source.ledger.Sound :=
  Ledger.sound_of_empty (by rw [Source.ledger, run.new.pending])

end OrdinaryRun

/-! ## Requests -/

/-- A request that comes in during a run. If it makes a call, the call gets the given id. -/
structure Arrival where
  /-- The gateway when the run begins. -/
  start : Gateway
  /-- The source when the run begins. -/
  first : Snapshot
  /-- What has happened before the request. -/
  earlier : List Incident
  request : Http.Request
  id : CorrelationId

namespace Arrival

section Definitions

variable (arrival : Arrival) (later : List Incident)

/-- The gateway that the request comes to. -/
def gate : Gateway :=
  arrival.start.undergoAll arrival.earlier

/-- What has happened to the source before the request. -/
def before : List Occurrence :=
  arrival.start.chronicle arrival.earlier

/-- The source when the request comes in. -/
def moment : Snapshot :=
  arrival.first.undergoAll arrival.before

/-- The number of the call that the request makes. -/
def ticket : Ticket :=
  arrival.moment.source.nextTicket

/-- When the deadline of the call is due. -/
def due : Instant :=
  (arrival.moment.deadline arrival.id).due

/-- The run with what happens after the request. -/
def run : List Incident :=
  arrival.earlier ++ .arrive arrival.request arrival.id :: later

/-- The gateway after the run. -/
def final : Gateway :=
  arrival.start.undergoAll (arrival.run later)

/-- What has happened to the source in the run. -/
def chronicle : List Occurrence :=
  arrival.start.chronicle (arrival.run later)

/-- The source after the run. -/
def snapshot : Snapshot :=
  arrival.first.undergoAll (arrival.chronicle later)

/-- The visit of the request. -/
def visit? : Option Visit :=
  (arrival.final later).ingress.visits[arrival.gate.ingress.nextVisit]?

/-- The response to the request, once there is one. -/
def response? : Option Http.Response :=
  (arrival.final later).response? arrival.gate.ingress.nextVisit

/-- The settlements of the call that the request makes. -/
def settlements : List Settlement :=
  arrival.first.settlementsOf arrival.id (arrival.chronicle later)

/-- Whether the id of the call is in the table. -/
def isPending : Bool :=
  (arrival.snapshot later).source.pending.contains arrival.id

/-- The request makes a call, and the call is registered. -/
def Registered : Prop :=
  ∃ event, arrival.gate.ingress.event? arrival.request = some event ∧
    arrival.moment.Accepts event.payload arrival.request.head.headers arrival.id

end Definitions

variable {arrival : Arrival} {later rest : List Incident}

theorem run_append : arrival.run (later ++ rest) = arrival.run later ++ rest := by
  simp [run]

theorem final_append : arrival.final (later ++ rest) = (arrival.final later).undergoAll rest := by
  rw [final, run_append, undergoAll_append]
  rfl

theorem chronicle_append :
    arrival.chronicle (later ++ rest) =
      arrival.chronicle later ++ (arrival.final later).chronicle rest := by
  rw [chronicle, run_append, Gateway.chronicle_append]
  rfl

theorem snapshot_append :
    arrival.snapshot (later ++ rest) =
      (arrival.snapshot later).undergoAll ((arrival.final later).chronicle rest) := by
  rw [snapshot, chronicle_append, Snapshot.undergoAll_append]
  rfl

theorem settlements_append :
    arrival.settlements (later ++ rest) =
      arrival.settlements later ++
        (arrival.snapshot later).settlementsOf arrival.id
          ((arrival.final later).chronicle rest) := by
  rw [settlements, chronicle_append, Snapshot.settlementsOf_append]
  rfl

theorem final_eq :
    arrival.final later =
      (arrival.gate.undergo (.arrive arrival.request arrival.id)).undergoAll later := by
  rw [final, run, undergoAll_append]
  rfl

/-- What happens to the source is what happened before the request, what the request does, and what
happens afterwards. -/
theorem chronicle_eq :
    arrival.chronicle later = arrival.before ++
      (arrival.gate.occurrences (.arrive arrival.request arrival.id) ++
        (arrival.gate.undergo (.arrive arrival.request arrival.id)).chronicle later) := by
  rw [chronicle, run, Gateway.chronicle_append]
  rfl

theorem snapshot_eq :
    arrival.snapshot later =
      (arrival.moment.undergoAll
        (arrival.gate.occurrences (.arrive arrival.request arrival.id))).undergoAll
          ((arrival.gate.undergo (.arrive arrival.request arrival.id)).chronicle later) := by
  rw [snapshot, chronicle_eq, Snapshot.undergoAll_append, Snapshot.undergoAll_append]
  rfl

/-- A request that brings an event begins with a call. -/
theorem chronicle_of_event {event : EventMessage}
    (brought : arrival.gate.ingress.event? arrival.request = some event) (later : List Incident) :
    ∃ tail, arrival.chronicle later = arrival.before ++
      .accept event.payload arrival.request.head.headers arrival.id :: tail := by
  rcases arrival.gate.callOccurrences_eq event arrival.request.head.headers arrival.id with
    ⟨rest, parts⟩
  rw [chronicle_eq, occurrences, brought]
  simp only [parts]
  exact ⟨_, rfl⟩

theorem source_gate (arrival : Arrival) :
    arrival.gate.ingress.source = arrival.start.ingress.source :=
  (arrival.start.continues_undergoAll arrival.earlier).source

/-! ## The call -/

/-- A request that brings no event makes no call. -/
theorem unminted_of_none (run : arrival.start.OrdinaryRun arrival.first (arrival.run later))
    (lacking : arrival.gate.ingress.event? arrival.request = none) :
    arrival.id ∉ (arrival.chronicle later).filterMap Occurrence.minted? := by
  have distinct := run.distinct
  rw [Arrival.run, List.filterMap_append, List.nodup_append] at distinct
  rcases distinct with ⟨_, tail, apart⟩
  rw [show (Incident.arrive arrival.request arrival.id :: later).filterMap
      (Incident.minted? arrival.start.ingress.source) =
        arrival.id :: later.filterMap (Incident.minted? arrival.start.ingress.source) from rfl]
    at tail apart
  have source : (arrival.gate.undergo (.arrive arrival.request arrival.id)).ingress.source =
      arrival.start.ingress.source :=
    (arrival.gate.continues_undergo _).source.trans arrival.source_gate
  intro minted
  rw [chronicle_eq, occurrences, lacking, List.nil_append, List.filterMap_append] at minted
  rcases List.mem_append.mp minted with earlier | last
  · exact apart _ ((arrival.start.minted_chronicle _).subset earlier) _ List.mem_cons_self rfl
  · have named := (Gateway.minted_chronicle _ later).subset last
    rw [source] at named
    exact (List.nodup_cons.mp tail).1 named

/-- If its id is ever in the table, the call was registered. -/
theorem registered_of_contains
    (run : arrival.start.OrdinaryRun arrival.first (arrival.run later)) {part : List Occurrence}
    (cut : part <+: arrival.chronicle later)
    (contains : (arrival.first.undergoAll part).source.pending.contains arrival.id = true) :
    arrival.Registered := by
  rcases cut with ⟨last, parts⟩
  have ordinary : ∀ occurrence ∈ part, occurrence.isOrdinary = true := fun occurrence member =>
    run.ordinary_chronicle occurrence (show occurrence ∈ arrival.chronicle later from
      parts ▸ List.mem_append_left _ member)
  rcases Source.contains_iff.mp contains with ⟨ticket, found⟩
  rcases Snapshot.accepted_of_find? ordinary found with
    already | ⟨other, payload, metadata, rest, rfl, accepts⟩
  · rw [run.absent] at already
    cases already
  · rw [List.append_assoc, List.cons_append] at parts
    cases brought : arrival.gate.ingress.event? arrival.request with
    | none =>
        refine absurd ?_ (unminted_of_none run brought)
        rw [← parts, List.filterMap_append]
        exact List.mem_append_right _ List.mem_cons_self
    | some event =>
        -- The call under the id that was accepted is the one that the request makes.
        rcases chronicle_of_event brought later with ⟨tail, whole⟩
        have distinct := run.distinct_chronicle
        rw [show arrival.start.chronicle (arrival.run later) = _ from whole] at distinct
        rcases Snapshot.eq_of_split distinct (whole.symm.trans parts.symm) with
          ⟨rfl, rfl, rfl, _⟩
        exact ⟨event, brought, accepts⟩

/-- A call that is registered is an ordinary one. -/
theorem ordinaryCall (run : arrival.start.OrdinaryRun arrival.first (arrival.run later))
    (registered : arrival.Registered) :
    ∃ payload tail,
      arrival.chronicle later = arrival.before ++
        .accept payload arrival.request.head.headers arrival.id :: tail ∧
      Snapshot.OrdinaryCall arrival.first arrival.before payload arrival.request.head.headers
        arrival.id tail := by
  rcases registered with ⟨event, brought, accepts⟩
  rcases chronicle_of_event brought later with ⟨tail, whole⟩
  exact ⟨event.payload, tail, whole,
    { new := run.new.task
      sound := run.sound
      accepts
      ordinary := whole ▸ run.ordinary_chronicle
      fresh := whole ▸ run.distinct_chronicle }⟩

/-- A call that is registered is not made again. -/
theorem unminted_after
    (run : arrival.start.OrdinaryRun arrival.first (arrival.run (later ++ rest)))
    (registered : arrival.Registered) :
    arrival.id ∉ ((arrival.final later).chronicle rest).filterMap Occurrence.minted? := by
  rcases registered with ⟨event, brought, _⟩
  rcases chronicle_of_event brought later with ⟨tail, whole⟩
  have distinct := run.distinct_chronicle
  rw [show arrival.start.chronicle (arrival.run (later ++ rest)) = _ from chronicle_append, whole,
    List.append_assoc, List.cons_append] at distinct
  have after := (Snapshot.unminted_of_nodup distinct).2
  rw [List.filterMap_append, List.mem_append, not_or] at after
  exact after.2

/-- A call that is registered is pending and has not been settled, or it was settled once, by a
dispatch that names its id or by its own deadline. -/
theorem pending_or_settled (run : arrival.start.OrdinaryRun arrival.first (arrival.run later))
    (registered : arrival.Registered) :
    ((arrival.snapshot later).source.ledger.Awaits arrival.id arrival.ticket ∧
        arrival.settlements later = []) ∨
      ∃ cause waited, cause.IsFor arrival.due ∧
        arrival.settlements later = [⟨arrival.id, arrival.ticket, cause, waited⟩] ∧
        (arrival.snapshot later).source.ledger.Ended arrival.ticket
          (if waited then .resolved cause.closing.outcome else .lost) := by
  rcases ordinaryCall run registered with ⟨payload, tail, whole, call⟩
  have settlements := call.settlementsOf_eq (run.absent arrival.id)
  rw [← whole] at settlements
  rw [Arrival.settlements, settlements, snapshot, whole, Snapshot.undergoAll_append,
    Snapshot.undergoAll_cons]
  exact call.pending_or_settled

/-- While its id is in the table, the call awaits its reply. -/
theorem awaits_of_pending (run : arrival.start.OrdinaryRun arrival.first (arrival.run later))
    (pending : arrival.isPending later = true) :
    (arrival.snapshot later).source.ledger.Awaits arrival.id arrival.ticket := by
  have registered := registered_of_contains run (List.prefix_refl _) pending
  rcases ordinaryCall run registered with ⟨payload, tail, whole, call⟩
  rw [isPending] at pending
  rw [snapshot, whole, Snapshot.undergoAll_append, Snapshot.undergoAll_cons] at pending ⊢
  exact call.awaits_of_contains pending

/-- A call that is not registered is refused. -/
theorem reply_of_unregistered {event : EventMessage}
    (brought : arrival.gate.ingress.event? arrival.request = some event) {handler : Handler}
    (handled : arrival.moment.source.handler = some handler)
    (unregistered : ¬arrival.Registered) (later : List Incident) :
    ∃ status ∈ [CallStatus.dataLoss, .internal],
      (arrival.snapshot later).source.ledger.reply? arrival.ticket =
        some (.resolved (.failed status)) := by
  cases refusal : arrival.moment.source.refusal? handler arrival.request.head.headers
      arrival.id with
  | none =>
      exact absurd ⟨event, brought, Snapshot.accepts_iff.mpr ⟨handler, handled, refusal⟩⟩
        unregistered
  | some status =>
      refine ⟨status, ?_, ?_⟩
      · rw [Source.refusal?] at refusal
        split at refusal
        · cases refusal
          simp
        · split at refusal <;> cases refusal
          simp
      · rcases chronicle_of_event brought later with ⟨tail, whole⟩
        have refused : (arrival.moment.undergo (.accept event.payload
            arrival.request.head.headers arrival.id)).source.ledger.reply? arrival.ticket =
              some (.resolved (.failed status)) := by
          rw [Snapshot.ledger_undergo]
          simp [Source.postings, handled, Source.admission, refusal, Ledger.post, Ledger.reply?,
            ticket, Source.nextTicket, Source.ledger]
        rw [snapshot, whole, Snapshot.undergoAll_append, Snapshot.undergoAll_cons,
          Snapshot.ledger_undergoAll]
        exact Ledger.reply?_postAll_of_ne_awaited refused (by simp) _

/-! ## The visit -/

/-- A visit that is turned away as the request comes in is over. -/
theorem visit?_of_turnsAway {response : Http.Response}
    (away : arrival.gate.ingress.TurnsAway response)
    (entered : (arrival.gate.undergo (.arrive arrival.request arrival.id)).ingress =
      arrival.gate.ingress.enter (.answered response)) (later : List Incident) :
    (arrival.final later).ingress.TurnsAway response ∧
      arrival.visit? later = some (.answered response) := by
  rw [visit?, final_eq]
  refine ⟨(away.mono (arrival.gate.continues_undergo _)).mono (continues_undergoAll _ _), ?_⟩
  refine visit_undergoAll_of_ended ?_ rfl later
  simp [entered, Ingress.enter, Ingress.nextVisit]

/-- The visit of a request is turned away or stands in view of the call that it has made. -/
theorem turnedAway_or_stands
    (run : arrival.start.OrdinaryRun arrival.first (arrival.run later)) :
    (¬arrival.Registered ∧ ∃ response, (arrival.final later).ingress.TurnsAway response ∧
        arrival.visit? later = some (.answered response)) ∨
      ∃ event handler, arrival.gate.ingress.event? arrival.request = some event ∧
        arrival.moment.source.handler = some handler ∧
        (arrival.final later).Stands (arrival.snapshot later) arrival.gate.ingress.nextVisit
          arrival.ticket := by
  have present : arrival.gate.snapshot? = some arrival.moment :=
    run.prefix_of_append.present_undergoAll
  have builtIn : ∃ path, arrival.gate.ingress.service = .builtIn path := by
    rw [show arrival.gate.ingress.service = _ from
      (arrival.start.continues_undergoAll arrival.earlier).service]
    exact run.builtIn
  cases brought : arrival.gate.ingress.event? arrival.request with
  | none =>
      rcases builtIn with ⟨path, service⟩
      rcases Ingress.arrive_of_none arrival.gate.exchange arrival.id service brought with
        ⟨response, away, arrived⟩
      refine Or.inl ⟨?_, response, visit?_of_turnsAway away (by rw [undergo, arrived]) later⟩
      rintro ⟨event, also, _⟩
      cases brought.symm.trans also
  | some event =>
      cases handled : arrival.moment.source.handler with
      | none =>
          have arrived := Ingress.arrive_of_event arrival.gate.exchange arrival.id brought
          have unhandled : arrival.gate.exchange.handle? arrival.gate.ingress.source event.payload
              arrival.request.head.headers arrival.id = none := by
            simp [Exchange.handle?, found_of_present present, handled]
          simp only [unhandled] at arrived
          have away : arrival.gate.ingress.TurnsAway (.ofStatus .internal) := .refused (by simp)
          refine Or.inl ⟨?_, _, visit?_of_turnsAway away (by rw [undergo, arrived]) later⟩
          rintro ⟨_, _, handler, also, _⟩
          cases handled.symm.trans also
      | some handler =>
          refine Or.inr ⟨event, handler, rfl, rfl, ?_⟩
          rw [final_eq, snapshot_eq]
          exact (stands_arrive present brought handled arrival.id).undergoAll later

/-- What the response to the request is about. -/
inductive Answered (arrival : Arrival) (later : List Incident) : Http.Response → Prop
  /-- The request has made no call, or the visit has ended without it. -/
  | turnedAway {response : Http.Response}
      (turned : (arrival.final later).ingress.TurnsAway response) : Answered arrival later response
  /-- The call was not registered. -/
  | refused {status : CallStatus} (member : status ∈ [CallStatus.dataLoss, .internal])
      (unregistered : ¬arrival.Registered) : Answered arrival later (.ofStatus status)
  /-- The call was settled while the client still waited. -/
  | settled {cause : Cause} (isFor : cause.IsFor arrival.due)
      (settled : arrival.settlements later = [⟨arrival.id, arrival.ticket, cause, true⟩]) :
      Answered arrival later (.ofOutcome cause.closing.outcome)

theorem answered (run : arrival.start.OrdinaryRun arrival.first (arrival.run later))
    {response : Http.Response} (responded : arrival.response? later = some response) :
    arrival.Answered later response := by
  rcases Option.bind_eq_some_iff.mp responded with ⟨visit, there, found⟩
  rcases turnedAway_or_stands run with
    ⟨_, given, away, also⟩ | ⟨event, handler, brought, handled, stands⟩
  · rw [visit?, there] at also
    cases also
    cases found
    exact .turnedAway away
  · rcases stands.stands with ⟨also, same, standing⟩
    rw [there] at same
    cases same
    cases standing with
    | waiting => cases found
    | left gone => cases found
    | failed =>
        cases found
        exact .turnedAway (.refused (by simp))
    | forced signalled gone =>
        cases found
        exact .turnedAway (.forced signalled)
    | answered resolved =>
        cases found
        -- An outcome that the visit has seen is what settled the call, or the call was refused.
        by_cases registered : arrival.Registered
        · rcases pending_or_settled run registered with
            ⟨awaits, _⟩ | ⟨cause, waited, isFor, settled, ended⟩
          · cases awaits.awaited.symm.trans resolved
          · have decided := Option.some.inj (ended.replied.symm.trans resolved)
            cases waited with
            | false => cases decided
            | true =>
                cases decided
                exact .settled isFor settled
        · rcases reply_of_unregistered brought handled registered later with
            ⟨status, member, replied⟩
          cases replied.symm.trans resolved
          exact .refused member registered

end Arrival

end Gateway

end Rendezvous
