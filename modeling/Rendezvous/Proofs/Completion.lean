import Rendezvous.Proofs.Bookkeeping
import Rendezvous.Proofs.Deadlines.Settling

/-!
# What a dispatch does

A dispatch reaches a call if it names a source that takes responses and an id that is pending there.
Then it completes this call and touches nothing else (`Exchange.Reaches.delivers`). A dispatch that
reaches no call changes nothing at all (`Exchange.dispatch_eq_self`). However many dispatches are
made one after another, a source keeps everything but the calls that they complete
(`Exchange.spared_dispatchAll`).
-/

namespace Rendezvous

namespace Source

/-- The call that was pending under an id is completed with a payload, and nothing else happens to
the source. -/
structure Completed (source : Source) (id : CorrelationId) (payload : String) (ticket : Ticket)
    (after : Source) : Prop where
  pending : source.ledger.find? id = some ticket
  /-- The id leaves the table, and no other does. -/
  table : ∀ other, after.ledger.find? other =
    if other = id then none else source.ledger.find? other
  size : after.pending.size + 1 = source.pending.size
  /-- One more call is completed, and it is an abandoned one if its caller has left. -/
  tally : after.pending.tally =
    { source.pending.tally with
      completed := source.pending.tally.completed + 1
      abandoned := source.pending.tally.abandoned + if source.listens ticket then 0 else 1 }
  /-- A caller who waits sees the payload. -/
  received : source.listens ticket = true →
    (after.poll ticket).2 = .outcome (.completed payload)
  /-- A caller who has left sees nothing. -/
  missed : source.listens ticket = false → after.ledger.reply? ticket = some .lost
  calls : ∀ other, other ≠ ticket → after.calls[other]? = source.calls[other]?
  rest : after = source.withLedger after.ledger

variable {source : Source} {id : CorrelationId} {ticket : Ticket}

theorem complete_of_find? (enabled : source.enabled = true)
    (found : source.ledger.find? id = some ticket) (payload : String) :
    source.complete id payload =
      (source.withLedger (source.ledger.post (.closed id (.completed payload))), true) := by
  refine Prod.ext ?_ ((complete_iff payload).mpr ⟨enabled, ticket, found⟩)
  rw [complete_eq, if_pos enabled]
  rfl

theorem completed_of_awaits (awaits : source.ledger.Awaits id ticket) (payload : String) :
    source.Completed id payload ticket
      (source.withLedger (source.ledger.post (.closed id (.completed payload)))) := by
  have posted := Ledger.post_closed_of_find? awaits.pending (.completed payload)
  rcases Option.map_eq_some_iff.mp awaits.awaited with ⟨call, made, reply⟩
  have listening : source.listens ticket = call.listening := by
    have present : source.calls[ticket]? = some call := made
    simp [listens, present]
  have changed : (source.ledger.post (.closed id (.completed payload))).calls[ticket]? =
      some (call.resolve (.completed payload)).1 := by
    simp [posted, made, Alteration.apply, Closing.outcome]
  refine ⟨awaits.pending, ?_, ?_, ?_, ?_, ?_, ?_, rfl⟩
  · intro other
    exact Ledger.find?_closed (.completed payload)
  · rw [posted]
    exact size_erase_of_find? awaits.pending
  · have counted : (source.ledger.post (.closed id (.completed payload))).pending.tally =
        source.pending.tally.countCompleted (source.listens ticket) := by
      rw [posted]
      rfl
    refine counted.trans ?_
    cases source.listens ticket <;> rfl
  · intro waits
    rw [listening] at waits
    simp [poll, withLedger, changed, Call.resolve, Call.poll, reply, waits]
  · intro left
    rw [listening] at left
    simp [Ledger.reply?, changed, Call.resolve, reply, left]
  · intro other different
    change (source.ledger.post (.closed id (.completed payload))).calls[other]? = _
    rw [posted]
    exact List.getElem?_modify_ne _ _ different.symm

/-- Nothing but completions has happened to a source: its calls may have been completed and may have
left the table. -/
structure Spared (before after : Source) : Prop where
  rest : after = before.withLedger after.ledger
  registered : after.pending.tally.registered = before.pending.tally.registered
  timeouts : after.pending.tally.timeouts = before.pending.tally.timeouts
  calls : after.calls.length = before.calls.length
  table : ∀ id ticket, after.ledger.find? id = some ticket → before.ledger.find? id = some ticket

theorem Spared.refl (source : Source) : source.Spared source :=
  ⟨rfl, rfl, rfl, rfl, fun _ _ found => found⟩

theorem Spared.trans {middle after : Source} (first : source.Spared middle)
    (second : middle.Spared after) : source.Spared after where
  rest := by
    rw [second.rest, first.rest]
    rfl
  registered := second.registered.trans first.registered
  timeouts := second.timeouts.trans first.timeouts
  calls := second.calls.trans first.calls
  table id ticket found := first.table id ticket (second.table id ticket found)

theorem Spared.enabled {after : Source} (spared : source.Spared after) :
    after.enabled = source.enabled := by
  rw [spared.rest]
  rfl

theorem spared_complete (source : Source) (id : CorrelationId) (payload : String) :
    source.Spared (source.complete id payload).1 := by
  cases answered : (source.complete id payload).2 with
  | false =>
      rw [complete_eq_self answered]
      exact Spared.refl source
  | true =>
      rcases (complete_iff payload).mp answered with ⟨enabled, ticket, pending⟩
      have posted := Ledger.post_closed_of_find? pending (.completed payload)
      have changed := complete_of_find? enabled pending payload
      have counted : (source.complete id payload).1.pending.tally =
          source.pending.tally.countCompleted (source.listens ticket) := by
        rw [changed, withLedger, posted]
        rfl
      refine ⟨by rw [changed]; rfl, ?_, ?_, ?_, ?_⟩
      · rw [counted]
        cases source.listens ticket <;> rfl
      · rw [counted]
        cases source.listens ticket <;> rfl
      · rw [changed, withLedger, posted]
        exact List.length_modify _ _ _
      · intro other held found
        rw [changed, ledger_withLedger, Ledger.find?_closed] at found
        split at found
        · cases found
        · exact found

end Source

namespace Exchange

/-- A dispatch names a source that takes responses and the id of a call that is pending there. -/
structure Reaches (exchange : Exchange) (attempt : Dispatch) (name : SourceName) (source : Source)
    (id : CorrelationId) (ticket : Ticket) : Prop where
  destination : exchange.destination? attempt = some (name, id)
  found : exchange.sources.find? name = some source
  enabled : source.enabled = true
  pending : source.ledger.find? id = some ticket

/-- One call of one source is completed, and nothing else happens to the exchange. -/
structure Delivers (before : Exchange) (name : SourceName) (id : CorrelationId) (payload : String)
    (ticket : Ticket) (after : Exchange) : Prop where
  source : ∃ source changed, before.sources.find? name = some source ∧
    after.sources.find? name = some changed ∧ source.Completed id payload ticket changed
  others : ∀ other, other ≠ name → after.sources.find? other = before.sources.find? other
  registry : after.registry = before.registry
  now : after.now = before.now

variable {exchange : Exchange} {attempt : Dispatch} {name : SourceName} {source : Source}
  {id : CorrelationId} {ticket : Ticket}

theorem Reaches.dispatch_eq (reaches : exchange.Reaches attempt name source id ticket) :
    exchange.dispatch attempt =
      (exchange.setSource name
        (source.withLedger (source.ledger.post (.closed id (.completed attempt.payload)))),
        true) := by
  simp [dispatch, reaches.destination, reaches.found,
    Source.complete_of_find? reaches.enabled reaches.pending]

/-- A dispatch completes a call if and only if it reaches one. -/
theorem dispatch_iff : (exchange.dispatch attempt).2 = true ↔
    ∃ name source id ticket, exchange.Reaches attempt name source id ticket := by
  constructor
  · intro answered
    cases destination : exchange.destination? attempt with
    | none => simp [dispatch, destination] at answered
    | some place =>
        cases found : exchange.sources.find? place.1 with
        | none => simp [dispatch, destination, found] at answered
        | some source =>
            simp only [dispatch, destination, found] at answered
            rcases (Source.complete_iff _).mp answered with ⟨enabled, ticket, pending⟩
            exact ⟨place.1, source, place.2, ticket, destination, found, enabled, pending⟩
  · rintro ⟨name, source, id, ticket, reaches⟩
    rw [reaches.dispatch_eq]

/-- A dispatch that completes no call changes nothing. -/
theorem dispatch_eq_self (missed : (exchange.dispatch attempt).2 = false) :
    (exchange.dispatch attempt).1 = exchange := by
  cases destination : exchange.destination? attempt with
  | none => simp [dispatch, destination]
  | some place =>
      cases found : exchange.sources.find? place.1 with
      | none => simp [dispatch, destination, found]
      | some source =>
          simp only [dispatch, destination, found] at missed ⊢
          rw [Source.complete_eq_self missed, setSource, Directory.put_of_find? found]

/-- A dispatch that reaches a call delivers its payload. -/
theorem Reaches.delivers (reaches : exchange.Reaches attempt name source id ticket)
    (awaits : source.ledger.Awaits id ticket) :
    exchange.Delivers name id attempt.payload ticket (exchange.dispatch attempt).1 := by
  rw [reaches.dispatch_eq]
  refine ⟨⟨source, _, reaches.found, ?_, source.completed_of_awaits awaits _⟩, ?_, rfl, rfl⟩
  · simp
  · intro other different
    simp [different]

/-! ## Dispatches one after another -/

/-- For a source a dispatch is a response to one of its ids, or nothing. -/
theorem find?_dispatch (attempt : Dispatch) (found : exchange.sources.find? name = some source) :
    (∃ held, exchange.destination? attempt = some (name, held) ∧
        (exchange.dispatch attempt).1.sources.find? name =
          some (source.complete held attempt.payload).1) ∨
      ((∀ held, exchange.destination? attempt ≠ some (name, held)) ∧
        (exchange.dispatch attempt).1.sources.find? name = some source) := by
  cases destination : exchange.destination? attempt with
  | none => exact Or.inr ⟨nofun, by simp [dispatch, destination, found]⟩
  | some place =>
      by_cases same : name = place.1
      · subst same
        refine Or.inl ⟨place.2, rfl, ?_⟩
        simp [dispatch, destination, found]
      · refine Or.inr ⟨?_, ?_⟩
        · rintro held here
          exact same (congrArg Prod.fst (Option.some.inj here)).symm
        · cases present : exchange.sources.find? place.1 <;>
            simp [dispatch, destination, present, same, found]

/-- A dispatch leaves everything about a source alone but the call that it completes. -/
theorem spared_dispatch (attempt : Dispatch) (found : exchange.sources.find? name = some source) :
    ∃ after, (exchange.dispatch attempt).1.sources.find? name = some after ∧
      source.Spared after := by
  rcases find?_dispatch attempt found with ⟨held, _, reached⟩ | ⟨_, reached⟩
  · exact ⟨_, reached, source.spared_complete held attempt.payload⟩
  · exact ⟨_, reached, .refl source⟩

theorem spared_dispatchAll (attempts : List Dispatch)
    (found : exchange.sources.find? name = some source) :
    ∃ after, (exchange.dispatchAll attempts).1.sources.find? name = some after ∧
      source.Spared after := by
  induction attempts generalizing exchange source with
  | nil => exact ⟨source, found, .refl source⟩
  | cons attempt rest ih =>
      rcases spared_dispatch attempt found with ⟨middle, reached, first⟩
      rcases ih reached with ⟨after, final, second⟩
      exact ⟨after, final, first.trans second⟩

end Exchange

end Rendezvous
