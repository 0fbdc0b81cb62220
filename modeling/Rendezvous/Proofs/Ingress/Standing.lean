import Rendezvous.Proofs.Ingress.Gateway
import Rendezvous.Proofs.Ledger.Leaving

/-!
# How a visit stands

A visit whose request has made a call waits for the call, has been answered with its outcome, or has
ended without it, and then nobody waits for the call any more (`Visit.Stands`). Whatever happens at
the gateway, a visit goes on standing in one of these ways (`Gateway.Stands.undergoAll`), and one
that is over stays as it is.
-/

namespace Rendezvous

/-- How a visit can stand that has made a call, in view of the calls of the source and the force
signal. -/
inductive Visit.Stands (ledger : Ledger) (raised : Bool) (ticket : Ticket) : Visit → Prop
  | waiting : Stands ledger raised ticket (.waiting ticket)
  /-- The outcome of the call has reached the client. -/
  | answered {outcome : Outcome} (resolved : ledger.reply? ticket = some (.resolved outcome)) :
      Stands ledger raised ticket (.answered (.ofOutcome outcome))
  /-- The call has no outcome to wait for. -/
  | failed : Stands ledger raised ticket (.answered (.ofStatus .internal))
  /-- The signal has ended the visit. -/
  | forced (signalled : raised = true) (gone : ledger.listens ticket = false) :
      Stands ledger raised ticket (.answered (.ofStatus .unavailable))
  /-- The client has left. -/
  | left (gone : ledger.listens ticket = false) : Stands ledger raised ticket .left

theorem Visit.Stands.postAll {ledger : Ledger} {raised later : Bool} {ticket : Ticket}
    {visit : Visit} (stands : visit.Stands ledger raised ticket) (made : ticket < ledger.calls.length)
    (kept : raised = true → later = true) (postings : List Posting) :
    visit.Stands (ledger.postAll postings) later ticket := by
  have gone : ledger.listens ticket = false → (ledger.postAll postings).listens ticket = false :=
    fun left => Bool.eq_false_iff.mpr fun waits =>
      Bool.false_ne_true (left.symm.trans (Ledger.listens_of_listens_postAll made waits))
  cases stands with
  | waiting => exact .waiting
  | answered resolved =>
      exact .answered (Ledger.reply?_postAll_of_ne_awaited resolved (by simp) postings)
  | failed => exact .failed
  | forced signalled left => exact .forced (kept signalled) (gone left)
  | left left => exact .left (gone left)

namespace Ingress

variable {source : Source} {ticket : Ticket}

theorem reply_of_outcome {outcome : Outcome} (seen : (source.poll ticket).2 = .outcome outcome) :
    source.ledger.reply? ticket = some (.resolved outcome) := by
  cases present : source.calls[ticket]? with
  | none => simp [Source.poll, present] at seen
  | some call =>
      simp only [Source.poll, present] at seen
      cases waits : call.listening <;> cases reply : call.reply <;>
        simp_all [Call.poll, Source.ledger, Ledger.reply?]

/-- A visit that has looked at its call stands in view of what it has seen. -/
theorem stands_seen (snapshot : Snapshot) (raised : Bool) (ticket : Ticket) :
    (seen ticket (snapshot.source.poll ticket).2).Stands
      (snapshot.undergo (.poll ticket)).source.ledger raised ticket := by
  cases glimpse : (snapshot.source.poll ticket).2 with
  | pending => exact .waiting
  | outcome outcome =>
      refine .answered ?_
      rw [Snapshot.ledger_undergo]
      exact Ledger.reply?_postAll_of_ne_awaited (reply_of_outcome glimpse) (by simp) _
  | closed => exact .failed
  | gone => exact .failed

theorem listens_hangUp (snapshot : Snapshot) (ticket : Ticket) :
    (snapshot.undergo (.hangUp ticket)).source.ledger.listens ticket = false := by
  rw [Snapshot.ledger_undergo]
  cases present : snapshot.source.ledger.calls[ticket]? <;>
    simp [Source.postings, Ledger.post, Ledger.change, Ledger.listens, present, Alteration.apply,
      Call.hangUp]

theorem visit_setVisit {ingress : Ingress} {number : VisitNumber} {visit : Visit}
    (there : ingress.visits[number]? = some visit) (changed : Visit) :
    (ingress.setVisit number changed).visits[number]? = some changed :=
  List.getElem?_set_self (List.getElem?_eq_some_iff.mp there).1

end Ingress

namespace Gateway

variable {gateway : Gateway} {snapshot : Snapshot} {incident : Incident} {number : VisitNumber}
  {ticket : Ticket} {visit : Visit}

/-! ## What an incident does to a visit -/

theorem visits_arrive (gateway : Gateway) (request : Http.Request) (id : CorrelationId) :
    ∃ visit, (gateway.undergo (.arrive request id)).ingress =
      gateway.ingress.enter visit := by
  simp only [undergo, Ingress.arrive]
  split
  · exact ⟨_, rfl⟩
  · split
    · split <;> exact ⟨_, rfl⟩
    · split <;> exact ⟨_, rfl⟩

/-- Only the raising of the signal changes it. -/
theorem signal_undergo (gateway : Gateway) (calm : incident ≠ .force) :
    (gateway.undergo incident).ingress.signal = gateway.ingress.signal := by
  cases incident with
  | arrive request id =>
      rcases gateway.visits_arrive request id with ⟨visit, same⟩
      rw [same]
      rfl
  | wake number =>
      simp only [undergo, Ingress.wake]
      split
      · split <;> rfl
      · split <;> rfl
      · rfl
  | leave number =>
      simp only [undergo, Ingress.leave]
      split <;> rfl
  | force => exact absurd rfl calm
  | act action => rfl

/-- An incident leaves a visit alone unless the visit is woken or left. -/
theorem visit_undergo (there : gateway.ingress.visits[number]? = some visit)
    (woken : incident ≠ .wake number) (unleft : incident ≠ .leave number) :
    (gateway.undergo incident).ingress.visits[number]? = some visit := by
  have present := (List.getElem?_eq_some_iff.mp there).1
  have set : ∀ (other : VisitNumber) (changed : Visit), other ≠ number →
      (gateway.ingress.setVisit other changed).visits[number]? = some visit := by
    intro other changed different
    rw [Ingress.setVisit, List.getElem?_set_ne different]
    exact there
  cases incident with
  | arrive request id =>
      rcases gateway.visits_arrive request id with ⟨entered, same⟩
      rw [same, Ingress.enter, List.getElem?_append_left present]
      exact there
  | wake other =>
      have different : other ≠ number := fun same => woken (same ▸ rfl)
      simp only [undergo, Ingress.wake]
      split
      · split <;> exact set other _ different
      · split
        · exact set other _ different
        · exact there
      · exact there
  | leave other =>
      have different : other ≠ number := fun same => unleft (same ▸ rfl)
      simp only [undergo, Ingress.leave]
      split
      · exact set other _ different
      · exact set other _ different
      · exact there
  | force => exact there
  | act action => exact there

/-- A visit that is over stays as it is. -/
theorem visit_undergo_of_ended (there : gateway.ingress.visits[number]? = some visit)
    (ended : visit.isOpen = false) (incident : Incident) :
    (gateway.undergo incident).ingress.visits[number]? = some visit := by
  by_cases woken : incident = .wake number
  · subst woken
    cases visit with
    | waiting ticket => cases ended
    | hanging => cases ended
    | answered response => simp [undergo, Ingress.wake, there]
    | left => simp [undergo, Ingress.wake, there]
  · by_cases left : incident = .leave number
    · subst left
      cases visit with
      | waiting ticket => cases ended
      | hanging => cases ended
      | answered response => simp [undergo, Ingress.leave, there]
      | left => simp [undergo, Ingress.leave, there]
    · exact visit_undergo there woken left

theorem visit_undergoAll_of_ended (there : gateway.ingress.visits[number]? = some visit)
    (ended : visit.isOpen = false) (incidents : List Incident) :
    (gateway.undergoAll incidents).ingress.visits[number]? = some visit := by
  induction incidents generalizing gateway with
  | nil => exact there
  | cons incident rest ih => exact ih (visit_undergo_of_ended there ended incident)

/-- A visit gets at most one response. -/
theorem response?_undergoAll {response : Http.Response}
    (answered : gateway.response? number = some response) (incidents : List Incident) :
    (gateway.undergoAll incidents).response? number = some response := by
  rcases Option.bind_eq_some_iff.mp answered with ⟨visit, there, found⟩
  cases visit with
  | answered given =>
      cases found
      rw [response?, visit_undergoAll_of_ended there rfl incidents]
      rfl
  | _ => cases found

/-! ## The standing of a visit -/

/-- A visit stands in view of a snapshot of the source. -/
structure Stands (gateway : Gateway) (snapshot : Snapshot) (number : VisitNumber)
    (ticket : Ticket) : Prop where
  present : gateway.snapshot? = some snapshot
  /-- The call was made. -/
  made : ticket < snapshot.source.ledger.calls.length
  stands : ∃ visit, gateway.ingress.visits[number]? = some visit ∧
    visit.Stands snapshot.source.ledger gateway.ingress.signal.raised ticket

theorem present_undergo (present : gateway.snapshot? = some snapshot) (incident : Incident) :
    (gateway.undergo incident).snapshot? =
      some (snapshot.undergoAll (gateway.occurrences incident)) := by
  have law := gateway.follows_undergo incident
  rw [snapshot?] at present
  rw [Exchange.Follows, present] at law
  rw [snapshot?, (gateway.continues_undergo incident).source]
  exact law

theorem found_of_present (present : gateway.snapshot? = some snapshot) :
    gateway.exchange.sources.find? gateway.ingress.source = some snapshot.source := by
  rcases Option.map_eq_some_iff.mp present with ⟨source, found, rfl⟩
  exact found

/-- A visit that waits stands in one of the ways when it has been woken. -/
theorem stands_woken (present : gateway.snapshot? = some snapshot)
    (there : gateway.ingress.visits[number]? = some (.waiting ticket)) :
    ∃ visit, (gateway.undergo (.wake number)).ingress.visits[number]? = some visit ∧
      visit.Stands (snapshot.undergoAll (gateway.occurrences (.wake number))).source.ledger
        gateway.ingress.signal.raised ticket := by
  have found := found_of_present present
  cases raised : gateway.ingress.signal.raised with
  | true =>
      have woken : (gateway.undergo (.wake number)).ingress =
          gateway.ingress.setVisit number (.answered (.ofStatus .unavailable)) := by
        simp [undergo, Ingress.wake, there, raised]
      rw [woken]
      refine ⟨_, Ingress.visit_setVisit there _, .forced rfl ?_⟩
      simpa [occurrences, there, raised] using Ingress.listens_hangUp snapshot ticket
  | false =>
      have woken : (gateway.undergo (.wake number)).ingress =
          gateway.ingress.setVisit number
            (Ingress.seen ticket (snapshot.source.poll ticket).2) := by
        simp [undergo, Ingress.wake, there, raised, Ingress.lookAt_visit found]
      rw [woken]
      refine ⟨_, Ingress.visit_setVisit there _, ?_⟩
      simpa [occurrences, there, raised] using Ingress.stands_seen snapshot false ticket

/-- Whatever happens, a visit goes on standing. -/
theorem Stands.undergo (stands : gateway.Stands snapshot number ticket) (incident : Incident) :
    (gateway.undergo incident).Stands (snapshot.undergoAll (gateway.occurrences incident)) number
      ticket := by
  rcases stands.stands with ⟨visit, there, standing⟩
  refine ⟨present_undergo stands.present incident, ?_, ?_⟩
  · rw [Snapshot.ledger_undergoAll]
    exact Nat.lt_of_lt_of_le stands.made (Ledger.length_calls_le_postAll _)
  · have kept : (gateway.undergo incident).ingress.visits[number]? = some visit →
        ∃ visit, (gateway.undergo incident).ingress.visits[number]? = some visit ∧
          visit.Stands (snapshot.undergoAll (gateway.occurrences incident)).source.ledger
            (gateway.undergo incident).ingress.signal.raised ticket := by
      intro same
      refine ⟨visit, same, ?_⟩
      rw [Snapshot.ledger_undergoAll]
      exact standing.postAll stands.made (gateway.continues_undergo incident).raised _
    by_cases woken : incident = .wake number
    · subst woken
      cases standing with
      | waiting =>
          rw [gateway.signal_undergo (by simp)]
          exact stands_woken stands.present there
      | _ => exact kept (visit_undergo_of_ended there rfl _)
    · by_cases left : incident = .leave number
      · subst left
        cases standing with
        | waiting =>
            have gone : (gateway.undergo (.leave number)).ingress =
                gateway.ingress.setVisit number .left := by
              simp [Gateway.undergo, Ingress.leave, there]
            rw [gone]
            refine ⟨_, Ingress.visit_setVisit there _, .left ?_⟩
            simpa [occurrences, there] using Ingress.listens_hangUp snapshot ticket
        | _ => exact kept (visit_undergo_of_ended there rfl _)
      · exact kept (visit_undergo there woken left)

theorem Stands.undergoAll (stands : gateway.Stands snapshot number ticket)
    (incidents : List Incident) :
    (gateway.undergoAll incidents).Stands (snapshot.undergoAll (gateway.chronicle incidents)) number
      ticket := by
  induction incidents generalizing gateway snapshot with
  | nil => exact stands
  | cons incident rest ih =>
      rw [chronicle, Snapshot.undergoAll_append]
      exact ih (stands.undergo incident)

/-! ## Arrivals -/

/-- What happens when a call is made for a request begins with the call. -/
theorem callOccurrences_eq (gateway : Gateway) (event : EventMessage) (headers : Metadata)
    (id : CorrelationId) :
    ∃ rest, gateway.callOccurrences event headers id = .accept event.payload headers id :: rest := by
  rw [callOccurrences, Exchange.occurrences, Exchange.forSource, if_pos rfl]
  exact ⟨_, rfl⟩

/-- A source with a handler gives the next number to a call that is made. -/
theorem handle?_eq_some {exchange : Exchange} {name : SourceName} {source : Source}
    (found : exchange.sources.find? name = some source) {handler : Handler}
    (handled : source.handler = some handler) (payload : String) (metadata : Metadata)
    (id : CorrelationId) :
    ∃ after receipt, exchange.handle? name payload metadata id = some (after, receipt) ∧
      receipt.ticket = source.nextTicket := by
  simp only [Exchange.handle?, found, handled]
  split <;> exact ⟨_, _, rfl, rfl⟩

theorem made_accept {handler : Handler} (handled : snapshot.source.handler = some handler)
    (payload : String) (metadata : Metadata) (id : CorrelationId) :
    snapshot.source.nextTicket <
      (snapshot.undergo (.accept payload metadata id)).source.ledger.calls.length := by
  rw [Snapshot.ledger_undergo]
  simp only [Source.postings, handled, Ledger.postAll_cons, Ledger.postAll_nil, Source.admission]
  cases snapshot.source.refusal? handler metadata id with
  | some status => simp [Ledger.post, Source.nextTicket, Source.ledger]
  | none => simp [Ledger.calls_entered, Source.nextTicket, Source.ledger]

/-- A request that brings an event to a handler makes the next call, and its visit stands. -/
theorem stands_arrive (present : gateway.snapshot? = some snapshot) {request : Http.Request}
    {event : EventMessage} (brought : gateway.ingress.event? request = some event)
    {handler : Handler} (handled : snapshot.source.handler = some handler) (id : CorrelationId) :
    (gateway.undergo (.arrive request id)).Stands
      (snapshot.undergoAll (gateway.occurrences (.arrive request id))) gateway.ingress.nextVisit
      snapshot.source.nextTicket := by
  have found := found_of_present present
  rcases handle?_eq_some found handled event.payload request.head.headers id with
    ⟨after, receipt, made, ticket⟩
  have arrived := Ingress.arrive_of_event gateway.exchange id brought
  simp only [made, ticket] at arrived
  refine ⟨present_undergo present _, ?_, ?_⟩
  · rcases gateway.callOccurrences_eq event request.head.headers id with ⟨rest, parts⟩
    simp only [occurrences, brought, parts, Snapshot.undergoAll_cons, Snapshot.ledger_undergoAll]
    exact Nat.lt_of_lt_of_le (made_accept handled _ _ _) (Ledger.length_calls_le_postAll _)
  · -- The visit looks at the call once the listener has had its turn.
    let called := snapshot.undergoAll (gateway.exchange.occurrences gateway.ingress.source
      (.handle gateway.ingress.source event.payload request.head.headers id))
    have law := gateway.exchange.follows_handle gateway.ingress.source gateway.ingress.source
      event.payload request.head.headers id
    have shown : after.snapshot? gateway.ingress.source = some called := by
      rw [snapshot?] at present
      rw [Exchange.Follows, present, Exchange.perform, made] at law
      exact law
    have there : after.sources.find? gateway.ingress.source = some called.source := by
      rcases Option.map_eq_some_iff.mp shown with ⟨source, held, same⟩
      rw [held, ← same]
    refine ⟨Ingress.seen snapshot.source.nextTicket (called.source.poll
      snapshot.source.nextTicket).2, ?_, ?_⟩
    · simp [undergo, arrived, Ingress.enter, Ingress.nextVisit, Ingress.lookAt_visit there]
    · have looked := Ingress.stands_seen called
        (gateway.undergo (.arrive request id)).ingress.signal.raised snapshot.source.nextTicket
      simpa [occurrences, brought, callOccurrences, made, ticket, called] using looked

end Gateway

end Rendezvous
