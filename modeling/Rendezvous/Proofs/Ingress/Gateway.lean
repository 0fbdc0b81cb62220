import Rendezvous.Ingress
import Rendezvous.Proofs.Occurrence.Ordinary

/-!
# Runs of the way into a source

A gateway is an exchange with the way into one of its sources. Requests arrive, visits are woken and
left, the force signal is raised, and whatever else can happen to the exchange happens meanwhile, in
any order. For the source such a run is a list of occurrences like any other
(`Gateway.snapshot?_undergoAll`).
-/

namespace Rendezvous

/-- The event that a request brings to the handler of a source, if it gets so far. -/
def Ingress.event? (ingress : Ingress) (request : Http.Request) : Option EventMessage :=
  if ingress.signal.raised then none
  else
    match ingress.service with
    | .custom _ => none
    | .builtIn path =>
        match Admission.refusal? ingress.limits request.head.headers with
        | some _ => none
        | none =>
            (EventRoute.read path request.head
              (Inflow.ofChunks (Admission.bodyLimit ingress.limits request.head.headers)
                request.chunks)).toOption

/-- Something that happens at the way into a source. -/
inductive Incident
  /-- A request comes in. If it makes a call, the call gets the given id. -/
  | arrive (request : Http.Request) (id : CorrelationId)
  | wake (number : VisitNumber)
  /-- The client of a visit leaves. -/
  | leave (number : VisitNumber)
  /-- The signal that ends the visits in flight is raised. -/
  | force
  /-- Something else happens to the exchange. -/
  | act (action : Action)

namespace Incident

/-- Nobody works on the table of a source, on a deadline of it or on the end of one of its calls by
hand. -/
def isOrdinary (name : SourceName) : Incident → Bool
  | .act action => action.isOrdinary name
  | _ => true

/-- The id that a call to a source is made under, if it is made. -/
def minted? (name : SourceName) : Incident → Option CorrelationId
  | .arrive _ id => some id
  | .act action => action.minted? name
  | _ => none

end Incident

/-- An exchange with the way into one of its sources. -/
structure Gateway where
  exchange : Exchange
  ingress : Ingress

namespace Gateway

/-- The gateway after something has happened. -/
def undergo (gateway : Gateway) : Incident → Gateway
  | .arrive request id =>
      let arrived := Ingress.arrive gateway.exchange gateway.ingress request id
      ⟨arrived.1, arrived.2⟩
  | .wake number =>
      let woken := Ingress.wake gateway.exchange gateway.ingress number
      ⟨woken.1, woken.2⟩
  | .leave number =>
      let left := Ingress.leave gateway.exchange gateway.ingress number
      ⟨left.1, left.2⟩
  | .force => { gateway with ingress := gateway.ingress.force }
  | .act action => { gateway with exchange := (gateway.exchange.perform action).1 }

/-- The gateway after a run. -/
def undergoAll (gateway : Gateway) (incidents : List Incident) : Gateway :=
  incidents.foldl undergo gateway

variable (gateway : Gateway)

@[simp]
theorem undergoAll_nil : gateway.undergoAll [] = gateway :=
  rfl

@[simp]
theorem undergoAll_cons (incident : Incident) (rest : List Incident) :
    gateway.undergoAll (incident :: rest) = (gateway.undergo incident).undergoAll rest :=
  rfl

@[simp]
theorem undergoAll_append (earlier later : List Incident) :
    gateway.undergoAll (earlier ++ later) = (gateway.undergoAll earlier).undergoAll later :=
  List.foldl_append

/-- The source behind the gateway, at the present moment. -/
def snapshot? : Option Snapshot :=
  gateway.exchange.snapshot? gateway.ingress.source

/-- The response to a visit, once there is one. -/
def response? (number : VisitNumber) : Option Http.Response :=
  gateway.ingress.visits[number]?.bind Visit.response?

/-- What happens to the source when a call is made for a request. -/
def callOccurrences (event : EventMessage) (headers : Metadata) (id : CorrelationId) :
    List Occurrence :=
  let name := gateway.ingress.source
  gateway.exchange.occurrences name (.handle name event.payload headers id) ++
    match gateway.exchange.handle? name event.payload headers id with
    | none => []
    | some (_, receipt) => [.poll receipt.ticket]

/-- What an incident is for the source. -/
def occurrences : Incident → List Occurrence
  | .arrive request id =>
      match gateway.ingress.event? request with
      | none => []
      | some event => gateway.callOccurrences event request.head.headers id
  | .wake number =>
      match gateway.ingress.visits[number]? with
      | some (.waiting ticket) =>
          if gateway.ingress.signal.raised then [.hangUp ticket] else [.poll ticket]
      | _ => []
  | .leave number =>
      match gateway.ingress.visits[number]? with
      | some (.waiting ticket) => [.hangUp ticket]
      | _ => []
  | .force => []
  | .act action => gateway.exchange.occurrences gateway.ingress.source action

/-- What a run is for the source. -/
def chronicle (gateway : Gateway) : List Incident → List Occurrence
  | [] => []
  | incident :: rest => gateway.occurrences incident ++ (gateway.undergo incident).chronicle rest

theorem chronicle_append (gateway : Gateway) (earlier later : List Incident) :
    gateway.chronicle (earlier ++ later) =
      gateway.chronicle earlier ++ (gateway.undergoAll earlier).chronicle later := by
  induction earlier generalizing gateway with
  | nil => rfl
  | cons incident rest ih => simp [chronicle, ih]

end Gateway

/-! ## What is fixed -/

/-- What is fixed about the way into a source, and what is not taken back. -/
structure Ingress.Continues (before after : Ingress) : Prop where
  source : after.source = before.source
  service : after.service = before.service
  raised : before.signal.raised = true → after.signal.raised = true

namespace Ingress

variable {exchange : Exchange} {ingress : Ingress} {request : Http.Request} {id : CorrelationId}
  {number : VisitNumber}

theorem Continues.refl (ingress : Ingress) : ingress.Continues ingress :=
  ⟨rfl, rfl, fun raised => raised⟩

theorem Continues.trans {middle after : Ingress} (first : ingress.Continues middle)
    (second : middle.Continues after) : ingress.Continues after where
  source := second.source.trans first.source
  service := second.service.trans first.service
  raised := second.raised ∘ first.raised

theorem Continues.of_visits (ingress : Ingress) (visits : List Visit) :
    ingress.Continues { ingress with visits } :=
  ⟨rfl, rfl, fun raised => raised⟩

/-! ## Requests that make no call -/

/-- The responses to requests that do not get so far as to make a call. -/
inductive TurnsAway (ingress : Ingress) : Http.Response → Prop
  /-- The signal is raised. -/
  | forced (raised : ingress.signal.raised = true) : TurnsAway ingress (.ofStatus .unavailable)
  /-- The request is too large, or nobody handles calls any more. -/
  | refused {status : CallStatus}
      (reason : status ∈ [.resourceExhausted, .messageTooLarge, .internal]) :
      TurnsAway ingress (.ofStatus status)
  /-- The request is none for the service. -/
  | faulty {status : Nat} (reason : status ∈ [404, 405, 415, 422, 400]) :
      TurnsAway ingress (EventRoute.bare status)

theorem read_eq_error {path : String} {head : Http.Head} {inflow : Inflow}
    {response : Http.Response} (failed : EventRoute.read path head inflow = .error response) :
    ∃ status ∈ [404, 405, 415, 413, 422, 400], response = EventRoute.bare status := by
  have body : ∀ bytes, EventRoute.readBody bytes = .error response →
      ∃ status ∈ [404, 405, 415, 413, 422, 400], response = EventRoute.bare status := by
    intro bytes failed
    rw [EventRoute.readBody] at failed
    split at failed
    · cases failed
      exact ⟨400, by simp, rfl⟩
    · split at failed
      · rename_i fault _
        cases failed
        cases fault <;> exact ⟨_, by simp [EventRoute.faultStatus], rfl⟩
      · cases failed
  rw [EventRoute.read] at failed
  split at failed
  · cases failed
    exact ⟨404, by simp, rfl⟩
  · split at failed
    · cases failed
      exact ⟨405, by simp, rfl⟩
    · split at failed
      · cases failed
        exact ⟨415, by simp, rfl⟩
      · split at failed
        · cases failed
          exact ⟨413, by simp, rfl⟩
        · exact body _ failed

theorem mem_of_refusal? {limits : Limits} {headers : Metadata} {status : CallStatus}
    (refused : Admission.refusal? limits headers = some status) :
    status ∈ [CallStatus.resourceExhausted, .messageTooLarge, .internal] := by
  rw [Admission.refusal?] at refused
  split at refused
  · cases refused
    simp
  · split at refused
    · cases refused
    · split at refused
      · cases refused
        simp
      · cases refused

theorem turnsAway_of_read {path : String} {head : Http.Head} {inflow : Inflow}
    {response : Http.Response} (failed : EventRoute.read path head inflow = .error response) :
    ingress.TurnsAway (Admission.outgoing response) := by
  rcases read_eq_error failed with ⟨status, member, rfl⟩
  by_cases large : status = 413
  · subst large
    exact .refused (by simp)
  · have kept : Admission.outgoing (EventRoute.bare status) = EventRoute.bare status := if_neg large
    rw [kept]
    exact .faulty (by simp_all)

/-- A request that brings no event to the handler is turned away. -/
theorem arrive_of_none (exchange : Exchange) (id : CorrelationId) {path : String}
    (builtIn : ingress.service = .builtIn path) (lacking : ingress.event? request = none) :
    ∃ response, ingress.TurnsAway response ∧
      arrive exchange ingress request id = (exchange, ingress.enter (.answered response)) := by
  cases raised : ingress.signal.raised with
  | true => exact ⟨_, .forced raised, by simp [arrive, raised]⟩
  | false =>
      cases refusal : Admission.refusal? ingress.limits request.head.headers with
      | some status =>
          exact ⟨_, .refused (mem_of_refusal? refusal), by simp [arrive, raised, builtIn, refusal]⟩
      | none =>
          cases read : EventRoute.read path request.head
            (Inflow.ofChunks (Admission.bodyLimit ingress.limits request.head.headers)
              request.chunks) with
          | error response =>
              exact ⟨_, turnsAway_of_read read,
                by simp [arrive, raised, builtIn, refusal, serveEvent, read]⟩
          | ok event => simp [event?, raised, builtIn, refusal, read, Except.toOption] at lacking

/-- A request that brings an event makes a call, unless nobody handles calls any more. -/
theorem arrive_of_event (exchange : Exchange) (id : CorrelationId) {event : EventMessage}
    (brought : ingress.event? request = some event) :
    arrive exchange ingress request id =
      match exchange.handle? ingress.source event.payload request.head.headers id with
      | none => (exchange, ingress.enter (.answered (.ofStatus .internal)))
      | some (handled, receipt) =>
          ((lookAt handled ingress.source receipt.ticket).1,
            ingress.enter (lookAt handled ingress.source receipt.ticket).2) := by
  cases raised : ingress.signal.raised with
  | true => simp [event?, raised] at brought
  | false =>
      cases service : ingress.service with
      | custom router => simp [event?, raised, service] at brought
      | builtIn path =>
          cases refusal : Admission.refusal? ingress.limits request.head.headers with
          | some status => simp [event?, raised, service, refusal] at brought
          | none =>
              cases read : EventRoute.read path request.head
                (Inflow.ofChunks (Admission.bodyLimit ingress.limits request.head.headers)
                  request.chunks) with
              | error response =>
                  simp [event?, raised, service, refusal, read, Except.toOption] at brought
              | ok found =>
                  simp only [event?, raised, service, refusal, read, Except.toOption] at brought
                  cases brought
                  simp only [arrive, raised, service, refusal, serveEvent, read]
                  cases handled : exchange.handle? ingress.source event.payload
                    request.head.headers id <;> simp

/-! ## Looking at a call -/

variable {name : SourceName} {ticket : Ticket}

/-- What a visit becomes that looks at its call. -/
def seen (ticket : Ticket) : Glimpse → Visit
  | .outcome outcome => .answered (.ofOutcome outcome)
  | .pending => .waiting ticket
  | .closed | .gone => .answered (.ofStatus .internal)

theorem lookAt_visit {source : Source} (found : exchange.sources.find? name = some source) :
    (lookAt exchange name ticket).2 = seen ticket (source.poll ticket).2 := by
  rw [lookAt, found]
  cases polled : source.poll ticket with
  | mk after glimpse => cases glimpse <;> simp [polled, seen]

/-- A caller that sees no outcome and goes on waiting, or does not wait, changes nothing. -/
theorem poll_eq_self (source : Source) (ticket : Ticket)
    (idle : (source.poll ticket).2 = .pending ∨ (source.poll ticket).2 = .gone) :
    (source.poll ticket).1 = source := by
  cases present : source.calls[ticket]? with
  | none => simp [Source.poll, present]
  | some call =>
      have same : call.poll.1 = call := by
        simp only [Source.poll, present] at idle
        cases waits : call.listening <;> cases reply : call.reply <;>
          simp_all [Call.poll]
      have calls : source.calls.modify ticket (fun call => call.poll.1) = source.calls := by
        refine List.ext_getElem? fun index => ?_
        rw [List.getElem?_modify]
        by_cases here : ticket = index
        · subst here
          simp [present, same]
        · simp [here]
      simp [Source.poll, present, Source.changeCall, calls]

theorem follows_lookAt (exchange : Exchange) (name : SourceName) (ticket : Ticket) :
    Exchange.Follows exchange (lookAt exchange name ticket).1 name [.poll ticket] := by
  cases found : exchange.sources.find? name with
  | none => simp [lookAt, found, Exchange.Follows, Exchange.snapshot?]
  | some source =>
      have undergone : (source.poll ticket).1 = source.undergo exchange.now (.poll ticket) := rfl
      have looked := Exchange.follows_setSource name found rfl undergone
      have idle := poll_eq_self source ticket
      rw [Exchange.forSource, if_pos rfl] at looked
      cases polled : source.poll ticket with
      | mk after glimpse =>
          rw [polled] at looked undergone idle
          cases glimpse with
          | outcome outcome => simpa [lookAt, found, polled] using looked
          | closed => simpa [lookAt, found, polled] using looked
          | pending =>
              rw [idle (Or.inl rfl)] at undergone
              simp [lookAt, found, polled, Exchange.Follows, Exchange.snapshot?, Snapshot.undergo,
                Snapshot.after, ← undergone]
          | gone =>
              rw [idle (Or.inr rfl)] at undergone
              simp [lookAt, found, polled, Exchange.Follows, Exchange.snapshot?, Snapshot.undergo,
                Snapshot.after, ← undergone]

theorem follows_giveUp (exchange : Exchange) (ingress : Ingress) (ticket : Ticket) :
    Exchange.Follows exchange (giveUp exchange ingress ticket) ingress.source [.hangUp ticket] := by
  have left : Exchange.Follows exchange (giveUp exchange ingress ticket) ingress.source
      (Exchange.forSource ingress.source ingress.source (.hangUp ticket)) :=
    Exchange.follows_changeSource (fun _ => rfl) fun _ => rfl
  rwa [Exchange.forSource, if_pos rfl] at left

end Ingress

/-! ## The law of the chronicle -/

namespace Gateway

variable {gateway : Gateway} {incident : Incident}

theorem continues_undergo (gateway : Gateway) (incident : Incident) :
    gateway.ingress.Continues (gateway.undergo incident).ingress := by
  cases incident with
  | arrive request id =>
      simp only [undergo, Ingress.arrive]
      split
      · exact .of_visits _ _
      · split
        · split <;> exact .of_visits _ _
        · split <;> exact .of_visits _ _
  | wake number =>
      simp only [undergo, Ingress.wake]
      split
      · split <;> exact .of_visits _ _
      · split
        · exact .of_visits _ _
        · exact .refl _
      · exact .refl _
  | leave number =>
      simp only [undergo, Ingress.leave]
      split
      · exact .of_visits _ _
      · exact .of_visits _ _
      · exact .refl _
  | force =>
      refine ⟨rfl, rfl, fun raised => ?_⟩
      cases held : gateway.ingress.signal.held <;>
        simp [undergo, Ingress.force, ForceSignal.after, held, raised]
  | act action => exact .refl _

theorem continues_undergoAll (gateway : Gateway) (incidents : List Incident) :
    gateway.ingress.Continues (gateway.undergoAll incidents).ingress := by
  induction incidents generalizing gateway with
  | nil => exact .refl _
  | cons incident rest ih =>
      exact (gateway.continues_undergo incident).trans (ih (gateway.undergo incident))

theorem follows_arrive (gateway : Gateway) (request : Http.Request) (id : CorrelationId) :
    Exchange.Follows gateway.exchange (gateway.undergo (.arrive request id)).exchange
      gateway.ingress.source (gateway.occurrences (.arrive request id)) := by
  cases brought : gateway.ingress.event? request with
  | none =>
      have unchanged : (gateway.undergo (.arrive request id)).exchange = gateway.exchange := by
        cases service : gateway.ingress.service with
        | builtIn path =>
            rcases Ingress.arrive_of_none gateway.exchange id service brought with
              ⟨response, _, arrived⟩
            simp [undergo, arrived]
        | custom router =>
            simp only [undergo, Ingress.arrive, service]
            split
            · rfl
            · split <;> rfl
      rw [unchanged, occurrences, brought]
      exact .refl _ _
  | some event =>
      rw [occurrences, brought, undergo, Ingress.arrive_of_event _ _ brought]
      have called := gateway.exchange.follows_handle gateway.ingress.source gateway.ingress.source
        event.payload request.head.headers id
      cases handled : gateway.exchange.handle? gateway.ingress.source event.payload
        request.head.headers id with
      | none =>
          simpa [callOccurrences, handled, Exchange.perform] using called
      | some made =>
          have looked := Ingress.follows_lookAt made.1 gateway.ingress.source made.2.ticket
          rw [Exchange.perform, handled] at called
          simpa [callOccurrences, handled] using called.trans looked

theorem follows_undergo (gateway : Gateway) (incident : Incident) :
    Exchange.Follows gateway.exchange (gateway.undergo incident).exchange gateway.ingress.source
      (gateway.occurrences incident) := by
  cases incident with
  | arrive request id => exact gateway.follows_arrive request id
  | wake number =>
      have idle := Exchange.Follows.refl gateway.exchange gateway.ingress.source
      cases met : gateway.ingress.visits[number]? with
      | none => simpa [undergo, Ingress.wake, occurrences, met] using idle
      | some visit =>
          cases visit with
          | waiting ticket =>
              cases raised : gateway.ingress.signal.raised with
              | true =>
                  simpa [undergo, Ingress.wake, occurrences, met, raised] using
                    Ingress.follows_giveUp gateway.exchange gateway.ingress ticket
              | false =>
                  simpa [undergo, Ingress.wake, occurrences, met, raised] using
                    Ingress.follows_lookAt gateway.exchange gateway.ingress.source ticket
          | hanging =>
              cases raised : gateway.ingress.signal.raised <;>
                simpa [undergo, Ingress.wake, occurrences, met, raised] using idle
          | answered response => simpa [undergo, Ingress.wake, occurrences, met] using idle
          | left => simpa [undergo, Ingress.wake, occurrences, met] using idle
  | leave number =>
      have idle := Exchange.Follows.refl gateway.exchange gateway.ingress.source
      cases met : gateway.ingress.visits[number]? with
      | none => simpa [undergo, Ingress.leave, occurrences, met] using idle
      | some visit =>
          cases visit with
          | waiting ticket =>
              simpa [undergo, Ingress.leave, occurrences, met] using
                Ingress.follows_giveUp gateway.exchange gateway.ingress ticket
          | _ => simpa [undergo, Ingress.leave, occurrences, met] using idle
  | force => exact .refl _ _
  | act action => exact gateway.exchange.follows_perform gateway.ingress.source action

/-- Replayed from the first snapshot of the source, its chronicle leads to the last one. -/
theorem snapshot?_undergoAll (gateway : Gateway) (incidents : List Incident) :
    (gateway.undergoAll incidents).snapshot? =
      gateway.snapshot?.map (·.undergoAll (gateway.chronicle incidents)) := by
  have law : Exchange.Follows gateway.exchange (gateway.undergoAll incidents).exchange
      gateway.ingress.source (gateway.chronicle incidents) := by
    induction incidents generalizing gateway with
    | nil => exact .refl _ _
    | cons incident rest ih =>
        have later := ih (gateway.undergo incident)
        rw [(gateway.continues_undergo incident).source] at later
        exact (gateway.follows_undergo incident).trans later
  rw [snapshot?, (gateway.continues_undergoAll incidents).source]
  exact law

/-! ## Ordinary runs -/

variable {name : SourceName} {occurrence : Occurrence}

theorem ordinary_occurrences (ordinary : incident.isOrdinary gateway.ingress.source = true)
    (member : occurrence ∈ gateway.occurrences incident) : occurrence.isOrdinary = true := by
  cases incident with
  | arrive request id =>
      cases brought : gateway.ingress.event? request with
      | none => simp [occurrences, brought] at member
      | some event =>
          simp only [occurrences, brought, callOccurrences, List.mem_append] at member
          rcases member with call | look
          · exact Exchange.ordinary_occurrences rfl call
          · split at look
            · cases look
            · rw [List.mem_singleton.mp look]
              rfl
  | wake number =>
      simp only [occurrences] at member
      split at member
      · split at member <;> (rw [List.mem_singleton.mp member]; rfl)
      · cases member
  | leave number =>
      simp only [occurrences] at member
      split at member
      · rw [List.mem_singleton.mp member]
        rfl
      · cases member
  | force => cases member
  | act action => exact Exchange.ordinary_occurrences ordinary member

theorem ordinary_chronicle {incidents : List Incident}
    (ordinary : ∀ incident ∈ incidents, incident.isOrdinary gateway.ingress.source = true)
    (member : occurrence ∈ gateway.chronicle incidents) : occurrence.isOrdinary = true := by
  induction incidents generalizing gateway with
  | nil => cases member
  | cons incident rest ih =>
      rcases List.mem_append.mp member with here | later
      · exact ordinary_occurrences (ordinary incident List.mem_cons_self) here
      · rw [← (gateway.continues_undergo incident).source] at ordinary
        exact ih (fun other present => ordinary other (List.mem_cons_of_mem _ present)) later

/-- A request that brings an event makes one call. -/
theorem minted_callOccurrences (gateway : Gateway) (event : EventMessage) (headers : Metadata)
    (id : CorrelationId) :
    (gateway.callOccurrences event headers id).filterMap Occurrence.minted? = [id] := by
  have call := Exchange.minted_occurrences gateway.exchange gateway.ingress.source
    (.handle gateway.ingress.source event.payload headers id)
  rw [Action.minted?, if_pos rfl] at call
  rw [callOccurrences, List.filterMap_append, call]
  cases gateway.exchange.handle? gateway.ingress.source event.payload headers id <;> rfl

/-- An incident makes no call under another id than the one that it names. -/
theorem minted_occurrences (gateway : Gateway) (incident : Incident) :
    ((gateway.occurrences incident).filterMap Occurrence.minted?).Sublist
      (incident.minted? gateway.ingress.source).toList := by
  cases incident with
  | arrive request id =>
      cases brought : gateway.ingress.event? request with
      | none => simp [occurrences, brought]
      | some event =>
          simp only [occurrences, brought, minted_callOccurrences, Incident.minted?]
          exact .refl _
  | wake number =>
      simp only [occurrences]
      split
      · split <;> exact List.nil_sublist _
      · exact List.nil_sublist _
  | leave number =>
      simp only [occurrences]
      split <;> exact List.nil_sublist _
  | force => exact List.nil_sublist _
  | act action =>
      simp only [occurrences, Exchange.minted_occurrences, Incident.minted?]
      exact .refl _

theorem minted_chronicle (gateway : Gateway) (incidents : List Incident) :
    ((gateway.chronicle incidents).filterMap Occurrence.minted?).Sublist
      (incidents.filterMap (Incident.minted? gateway.ingress.source)) := by
  induction incidents generalizing gateway with
  | nil => exact .refl _
  | cons incident rest ih =>
      have here := gateway.minted_occurrences incident
      have later := ih (gateway.undergo incident)
      rw [(gateway.continues_undergo incident).source] at later
      have whole := here.append later
      rw [chronicle, List.filterMap_append, List.filterMap_cons]
      cases minted : incident.minted? gateway.ingress.source with
      | none => simpa [minted] using whole
      | some id => simpa [minted] using whole

end Gateway

end Rendezvous
