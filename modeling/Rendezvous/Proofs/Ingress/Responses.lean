import Rendezvous.Proofs.Ingress.Arrival

/-!
# What the responses say is true

Three layers end a visit without knowing of each other: the force signal, a dispatch and a deadline.
The response says which of them it was, and a call whose visit has ended without it stays in the
table until a dispatch or its deadline takes it out (`Gateway.responses_truthful`).
-/

namespace Rendezvous

namespace Snapshot

/-- The abandoned calls are counted with the settlements of one id and with those of all others. -/
theorem abandoned_undergoAll (snapshot : Snapshot) (id : CorrelationId) (run : List Occurrence) :
    (snapshot.undergoAll run).source.pending.tally.abandoned =
      snapshot.source.pending.tally.abandoned +
        (snapshot.settlementsOf id run).countP (!·.waited) +
        ((snapshot.settlements run).filter fun settled => !decide (settled.id = id)).countP
          (!·.waited) := by
  rw [(snapshot.books_undergoAll run).abandoned, Nat.add_assoc, settlementsOf,
    ← List.countP_eq_countP_filter_add]

end Snapshot

namespace Gateway

namespace Arrival

/-- The visit of the request has ended without the call: by the signal, or because the client has
left. -/
def Deserted (arrival : Arrival) (later : List Incident) : Prop :=
  arrival.visit? later = some .left ∨
    arrival.response? later = some (.ofStatus .unavailable)

/-- The response to the request says what has become of the call. -/
structure Truthful (arrival : Arrival) (later : List Incident) : Prop where
  /-- There is at most one response. -/
  once : ∀ response, arrival.response? later = some response →
    ∀ rest, arrival.response? (later ++ rest) = some response
  /-- Only a payload has the status 200. -/
  payload : ∀ response, arrival.response? later = some response → response.status = 200 →
    ∃ payload, response = .ofPayload payload
  /-- A payload is that of the dispatch that took the call out of the table. -/
  dispatched : ∀ payload, arrival.response? later = some (.ofPayload payload) →
    arrival.settlements later = [⟨arrival.id, arrival.ticket, .dispatch payload, true⟩]
  /-- A call that has timed out was taken out of the table by its deadline. -/
  expired : arrival.response? later = some (.ofStatus .deadlineExceeded) →
    arrival.settlements later = [⟨arrival.id, arrival.ticket, .deadline arrival.due, true⟩]
  /-- A call that was lost has never been in the table. -/
  refused : arrival.response? later = some (.ofStatus .dataLoss) →
    ∀ part, part <+: arrival.chronicle later →
      (arrival.first.undergoAll part).source.pending.contains arrival.id = false
  /-- A visit is ended only after the signal was raised. -/
  forced : arrival.response? later = some (.ofStatus .unavailable) →
    .force ∈ arrival.run later ∧ (arrival.final later).ingress.signal.raised = true

/-- A call that is pending after `later` stays in the table until it is settled, by a dispatch that
names its id or by its own deadline, and counts as abandoned once it is. -/
structure Kept (arrival : Arrival) (later rest : List Incident) : Prop where
  pending_or_settled :
    let settlements := (arrival.snapshot later).settlementsOf arrival.id
      ((arrival.final later).chronicle rest)
    (arrival.isPending (later ++ rest) = true ∧ settlements = []) ∨
      (arrival.isPending (later ++ rest) = false ∧
        ∃ cause, cause.IsFor arrival.due ∧
          settlements = [⟨arrival.id, arrival.ticket, cause, false⟩])
  /-- Besides the other calls, the call counts once, and only when it is no longer pending. -/
  abandoned :
    (arrival.snapshot (later ++ rest)).source.pending.tally.abandoned =
      (arrival.snapshot later).source.pending.tally.abandoned +
        (if arrival.isPending (later ++ rest) then 0 else 1) +
        (((arrival.snapshot later).settlements ((arrival.final later).chronicle rest)).filter
          fun settled => !decide (settled.id = arrival.id)).countP (!·.waited)

variable {arrival : Arrival} {later rest : List Incident}

/-! ## The response -/

theorem response?_append {response : Http.Response}
    (responded : arrival.response? later = some response) (rest : List Incident) :
    arrival.response? (later ++ rest) = some response := by
  rw [response?, final_append]
  exact response?_undergoAll responded rest

/-- A response that could be the outcome of a call is one, or it has a status of its own. -/
theorem Answered.of_outcome {outcome : Outcome}
    (answered : arrival.Answered later (.ofOutcome outcome)) :
    (∃ cause, cause.IsFor arrival.due ∧ outcome = cause.closing.outcome ∧
        arrival.settlements later = [⟨arrival.id, arrival.ticket, cause, true⟩]) ∨
      ∃ status, outcome = .failed status ∧
        ((status = .unavailable ∧ (arrival.final later).ingress.signal.raised = true) ∨
          status ∈ [CallStatus.resourceExhausted, .messageTooLarge, .internal] ∨
          (status = .dataLoss ∧ ¬arrival.Registered)) := by
  generalize same : Http.Response.ofOutcome outcome = response at answered
  cases answered with
  | settled isFor settled =>
      exact Or.inl ⟨_, isFor, Http.Response.ofOutcome_injective same, settled⟩
  | @refused status member unregistered =>
      refine Or.inr ⟨status, Http.Response.ofOutcome_injective same, ?_⟩
      simp only [List.mem_cons, List.not_mem_nil, or_false] at member
      rcases member with rfl | rfl
      · exact Or.inr (Or.inr ⟨rfl, unregistered⟩)
      · exact Or.inr (Or.inl (by simp))
  | turnedAway turned =>
      subst same
      cases outcome with
      | completed payload => exact absurd rfl turned.status_ne
      | failed status =>
          refine Or.inr ⟨status, rfl, ?_⟩
          rcases turned.of_ofStatus with forced | refused
          · exact Or.inl forced
          · exact Or.inr (Or.inl refused)

theorem Answered.payload_of_status {response : Http.Response}
    (answered : arrival.Answered later response) (fine : response.status = 200) :
    ∃ payload, response = .ofPayload payload := by
  cases answered with
  | turnedAway turned => exact absurd fine turned.status_ne
  | refused member unregistered => exact absurd fine (Http.Response.status_ofStatus_ne _)
  | @settled cause isFor settled =>
      cases cause with
      | dispatch payload => exact ⟨payload, rfl⟩
      | deadline due => exact absurd fine (Http.Response.status_ofStatus_ne _)

theorem truthful (run : arrival.start.OrdinaryRun arrival.first (arrival.run later)) :
    arrival.Truthful later where
  once response responded := response?_append responded
  payload response responded := (answered run responded).payload_of_status
  dispatched payload responded := by
    have answered : arrival.Answered later (.ofOutcome (.completed payload)) :=
      answered run responded
    rcases answered.of_outcome with ⟨cause, _, same, settled⟩ | ⟨status, absurd, _⟩
    · cases cause with
      | dispatch other =>
          cases same
          exact settled
      | deadline due => cases same
    · cases absurd
  expired responded := by
    have answered : arrival.Answered later (.ofOutcome (.failed .deadlineExceeded)) :=
      answered run responded
    rcases answered.of_outcome with ⟨cause, isFor, same, settled⟩ | ⟨status, same, reasons⟩
    · cases cause with
      | dispatch payload => cases same
      | deadline due =>
          rw [show due = arrival.due from isFor] at settled
          exact settled
    · cases same
      simp at reasons
  refused responded := by
    have answered : arrival.Answered later (.ofOutcome (.failed .dataLoss)) :=
      answered run responded
    intro part cut
    refine Bool.eq_false_iff.mpr fun contains => ?_
    have registered := registered_of_contains run cut contains
    rcases answered.of_outcome with ⟨cause, _, same, _⟩ | ⟨status, same, reasons⟩
    · cases cause <;> cases same
    · cases same
      simp only [reduceCtorEq, false_and, List.mem_cons, List.not_mem_nil, or_self, false_or,
        true_and] at reasons
      exact reasons registered
  forced responded := by
    have answered : arrival.Answered later (.ofOutcome (.failed .unavailable)) :=
      answered run responded
    have raised : (arrival.final later).ingress.signal.raised = true := by
      rcases answered.of_outcome with ⟨cause, _, same, _⟩ | ⟨status, same, reasons⟩
      · cases cause <;> cases same
      · cases same
        simpa using reasons
    rcases force_of_raised raised with already | force
    · rw [run.calm] at already
      cases already
    · exact ⟨force, raised⟩

/-! ## A call without a visit -/

/-- If the visit of a pending call has ended without it, nobody waits for the call any more. -/
theorem listens_of_deserted
    (run : arrival.start.OrdinaryRun arrival.first (arrival.run later))
    (deserted : arrival.Deserted later) (pending : arrival.isPending later = true) :
    (arrival.snapshot later).source.ledger.listens arrival.ticket = false := by
  have awaits := awaits_of_pending run pending
  rcases turnedAway_or_stands run with ⟨unregistered, _⟩ | ⟨_, _, _, _, stands⟩
  · exact absurd (registered_of_contains run (List.prefix_refl _) pending) unregistered
  · rcases stands.stands with ⟨visit, there, standing⟩
    rcases deserted with left | unavailable
    · rw [visit?, there] at left
      cases left
      cases standing with
      | left gone => exact gone
    · rw [response?, Gateway.response?, there, Option.bind_some] at unavailable
      cases standing with
      | waiting => cases unavailable
      | left gone => cases unavailable
      | answered resolved => cases awaits.awaited.symm.trans resolved
      | failed => cases Http.Response.ofStatus_injective (Option.some.inj unavailable)
      | forced signalled gone => exact gone

/-- A pending call whose visit has ended without it stays in the table until it is settled, and then
nobody waits for it. -/
theorem pending_or_settled_of_deserted
    (run : arrival.start.OrdinaryRun arrival.first (arrival.run (later ++ rest)))
    (deserted : arrival.Deserted later) (pending : arrival.isPending later = true) :
    let settlements := (arrival.snapshot later).settlementsOf arrival.id
      ((arrival.final later).chronicle rest)
    (arrival.isPending (later ++ rest) = true ∧ settlements = []) ∨
      (arrival.isPending (later ++ rest) = false ∧
        ∃ cause, cause.IsFor arrival.due ∧
          settlements = [⟨arrival.id, arrival.ticket, cause, false⟩]) := by
  intro settlements
  have part : arrival.start.OrdinaryRun arrival.first (arrival.run later) :=
    (run_append ▸ run).prefix_of_append
  have awaits := awaits_of_pending part pending
  have registered := registered_of_contains part (List.prefix_refl _) pending
  have unsettled : arrival.settlements later = [] := by
    rcases pending_or_settled part registered with ⟨_, none⟩ | ⟨_, _, _, _, ended⟩
    · exact none
    · exact absurd awaits.pending (ended.gone arrival.id)
  -- So whatever settles the call in the whole run does so after `later`.
  have whole : arrival.settlements (later ++ rest) = settlements := by
    rw [settlements_append, unsettled, List.nil_append]
  rcases pending_or_settled run registered with
    ⟨still, none⟩ | ⟨cause, waited, isFor, settled, ended⟩
  · exact Or.inl ⟨Source.contains_iff.mpr ⟨_, still.pending⟩, whole ▸ none⟩
  · rw [whole] at settled
    have ordinary : ∀ occurrence ∈ (arrival.final later).chronicle rest,
        occurrence.isOrdinary = true := by
      intro occurrence member
      have here : occurrence ∈ arrival.chronicle (later ++ rest) :=
        chronicle_append ▸ List.mem_append_right _ member
      exact run.ordinary_chronicle occurrence here
    have waited : waited = false :=
      Snapshot.not_waited_of_left (Snapshot.sound_undergoAll run.sound _) awaits
        (listens_of_deserted part deserted pending) ordinary (unminted_after run registered)
        (settled ▸ List.mem_singleton_self _)
    rw [waited] at settled
    refine Or.inr ⟨Bool.eq_false_iff.mpr fun still => ?_, cause, isFor, settled⟩
    exact ended.gone arrival.id (awaits_of_pending run still).pending

theorem kept (run : arrival.start.OrdinaryRun arrival.first (arrival.run (later ++ rest)))
    (deserted : arrival.Deserted later) (pending : arrival.isPending later = true) :
    arrival.Kept later rest := by
  have fate := pending_or_settled_of_deserted run deserted pending
  refine ⟨fate, ?_⟩
  rw [snapshot_append, Snapshot.abandoned_undergoAll _ arrival.id]
  rcases fate with ⟨still, none⟩ | ⟨taken, cause, _, settled⟩
  · rw [none, if_pos still]
    rfl
  · rw [settled, taken]
    rfl

end Arrival

/-- In an ordinary run of the built-in service every request gets one response at most, and the
response says what has become of its call. A call that is still pending when its visit ends without
it stays in the table until it is settled, and then counts as abandoned once. Once the deadlines of
all calls have passed, the table is empty whenever the deadline task is idle, whether the signal was
raised or not. -/
theorem responses_truthful {start : Gateway} {first : Snapshot} {incidents : List Incident}
    (run : start.OrdinaryRun first incidents) :
    (start.undergoAll incidents).snapshot? =
        some (first.undergoAll (start.chronicle incidents)) ∧
      (∀ earlier request id later, incidents = earlier ++ .arrive request id :: later →
        let arrival : Arrival := ⟨start, first, earlier, request, id⟩
        arrival.Truthful later ∧
          ∀ middle rest, later = middle ++ rest → arrival.Deserted middle →
            arrival.isPending middle = true → arrival.Kept middle rest) ∧
      (first.AllDue (start.chronicle incidents) →
        let final := first.undergoAll (start.chronicle incidents)
        (final.IsIdle → final.source.pending.size = 0) ∧
        (final.source.task.Started → ∃ steps, (∀ step ∈ steps, step.isStep = true) ∧
          (final.undergoAll steps).source.pending.size = 0)) := by
  refine ⟨run.present_undergoAll, ?_, fun allDue => ⟨fun idle => ?_, fun started => ?_⟩⟩
  · rintro earlier request id later rfl arrival
    refine ⟨Arrival.truthful run, ?_⟩
    rintro middle rest rfl deserted pending
    exact Arrival.kept run deserted pending
  · exact Snapshot.size_eq_zero_of_idle run.new run.ordinary_chronicle run.distinct_chronicle idle
      allDue
  · exact Snapshot.exists_empty run.new run.ordinary_chronicle run.distinct_chronicle started allDue

/-- A request makes a call, the signal is raised before anybody completes it, and the deadline takes
it out of the table. -/
theorem responses_truthful_of_forced_call :
    let source : Source :=
      { id := "echo", timeout := ⟨5⟩, handler := some { listener := { keeps := false } } }
    let start : Gateway :=
      ⟨{ sources := Directory.ofList [("a", source)] },
        { source := "a", service := .builtIn "/e", limits := ⟨64, 64⟩ }⟩
    let headers := Metadata.ofFields [("content-type", .ofString "application/json")]
    -- The body is an event with the payload `in`.
    let request : Http.Request :=
      ⟨⟨"POST", "/e", headers⟩,
        [[123, 34, 112, 97, 121, 108, 111, 97, 100, 34, 58, 34, 105, 110, 34, 125]]⟩
    let arrival : Arrival := ⟨start, ⟨0, source⟩, [.act (.spawn "a")], request, ⟨7⟩⟩
    let middle : List Incident := [.force, .wake 0]
    let rest : List Incident := [.act (.receive "a"), .act (.advance ⟨5⟩), .act (.fire "a")]
    start.OrdinaryRun ⟨0, source⟩ (arrival.run (middle ++ rest)) ∧
      arrival.Truthful (middle ++ rest) ∧
      arrival.response? middle = some (.ofStatus .unavailable) ∧
      arrival.isPending middle = true ∧ arrival.Kept middle rest ∧
      (arrival.snapshot (middle ++ rest)).IsIdle ∧
      (arrival.snapshot (middle ++ rest)).source.pending.tally.abandoned = 1 ∧
      (arrival.snapshot (middle ++ rest)).source.pending.size = 0 := by
  intro source start headers request arrival middle rest
  have run : start.OrdinaryRun ⟨0, source⟩ (arrival.run (middle ++ rest)) := by
    refine ⟨rfl, ⟨rfl, rfl, rfl⟩, ⟨"/e", rfl⟩, rfl, ?_, ?_⟩
    · intro incident member
      simp only [arrival, middle, rest, Arrival.run, List.cons_append, List.nil_append,
        List.mem_cons, List.not_mem_nil, or_false] at member
      rcases member with rfl | rfl | rfl | rfl | rfl | rfl | rfl <;> rfl
    · decide
  have responses := responses_truthful run
  have mine := responses.2.1 [.act (.spawn "a")] request ⟨7⟩ (middle ++ rest) rfl
  have unavailable : arrival.response? middle = some (.ofStatus .unavailable) := by
    decide +kernel
  have pending : arrival.isPending middle = true := by decide +kernel
  have kept := mine.2 middle rest rfl (Or.inr unavailable) pending
  have idle : (arrival.snapshot (middle ++ rest)).IsIdle := by
    refine ⟨Or.inl ?_, ?_, ?_, ?_, ?_⟩ <;> decide +kernel
  refine ⟨run, mine.1, unavailable, pending, kept, idle, ?_, ?_⟩
  · decide +kernel
  · decide +kernel

end Gateway

end Rendezvous
