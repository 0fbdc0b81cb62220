import Mathlib.Data.List.DropRight
import Rendezvous.Proofs.Completion
import Rendezvous.Proofs.CorrelationId
import Rendezvous.Proofs.Isolation.Group

/-!
# Routing through the registry

After any run, whatever was registered and deregistered in it, an id of a source leads to the source
that registered first under it since it was last deregistered
(`Exchange.find?_registry_performAll`). A response that is addressed to the id completes a call of
that source or does nothing at all (`Exchange.responses_routed`).
-/

namespace Rendezvous

/-- Whatever is registered under a source id is removed. -/
def Action.deregisters (sourceId : String) : Action → Bool
  | .deregister other => decide (other = sourceId)
  | _ => false

namespace Exchange

/-- The source that registers under a source id, if it can. -/
def registrant? (exchange : Exchange) (sourceId : String) : Action → Option SourceName
  | .register name =>
      if (exchange.sources.find? name).map Source.id = some sourceId then some name else none
  | _ => none

/-- The source that registered first under a source id since the id was last deregistered. -/
def holder? (exchange : Exchange) (sourceId : String) (actions : List Action) :
    Option SourceName :=
  (actions.rtakeWhile fun action => !action.deregisters sourceId).findSome?
    (exchange.registrant? sourceId)

variable {exchange : Exchange} {sourceId : String}

/-! ## The registry in a run -/

/-- An id that is taken stays with its source until it is deregistered. -/
theorem find?_registryAfter (exchange : Exchange) (action : Action) (sourceId : String) :
    (exchange.registryAfter action).find? sourceId =
      if action.deregisters sourceId then none
      else (exchange.registry.find? sourceId).or (exchange.registrant? sourceId action) := by
  cases action with
  | deregister removed =>
      by_cases same : sourceId = removed
      · simp [registryAfter, Action.deregisters, Directory.find?_erase, same]
      · simp [registryAfter, Action.deregisters, registrant?, Directory.find?_erase, same,
          Ne.symm same]
  | register name =>
      cases found : exchange.sources.find? name with
      | none => simp [registryAfter, Action.deregisters, registrant?, found]
      | some source =>
          by_cases same : sourceId = source.id
          · subst same
            cases taken : exchange.registry.find? source.id <;>
              simp [registryAfter, Action.deregisters, registrant?, found, taken,
                Directory.contains, Directory.find?_put]
          · cases taken : exchange.registry.contains source.id <;>
              simp [registryAfter, Action.deregisters, registrant?, found, taken,
                Directory.find?_put, same, Ne.symm same]
  | _ => simp [registryAfter, Action.deregisters, registrant?]

theorem performAll_append (exchange : Exchange) (earlier later : List Action) :
    (exchange.performAll (earlier ++ later)).1 =
      ((exchange.performAll earlier).1.performAll later).1 := by
  induction earlier generalizing exchange with
  | nil => rfl
  | cons action rest ih => exact ih (exchange.perform action).1

/-- No source changes the id under which it registers. -/
theorem id_performAll (exchange : Exchange) (actions : List Action) (name : SourceName) :
    ((exchange.performAll actions).1.sources.find? name).map Source.id =
      (exchange.sources.find? name).map Source.id := by
  have law := exchange.snapshot?_performAll name actions
  have ids := congrArg (Option.map fun snapshot => snapshot.source.id) law
  simpa [snapshot?, Function.comp_def, Snapshot.id_undergoAll] using ids

theorem registrant?_performAll (exchange : Exchange) (actions : List Action) (sourceId : String) :
    (exchange.performAll actions).1.registrant? sourceId = exchange.registrant? sourceId := by
  funext action
  cases action with
  | register name => simp only [registrant?, id_performAll]
  | _ => rfl

/-- The registry leads from a source id to the source that has been holding it for the longest. -/
theorem find?_registry_performAll (vacant : exchange.registry = Directory.empty)
    (actions : List Action) (sourceId : String) :
    (exchange.performAll actions).1.registry.find? sourceId =
      exchange.holder? sourceId actions := by
  induction actions using List.reverseRecOn with
  | nil => simp [performAll, holder?, vacant]
  | append_singleton earlier last ih =>
      have step : (exchange.performAll (earlier ++ [last])).1.registry =
          (exchange.performAll earlier).1.registryAfter last := by
        rw [performAll_append]
        exact registry_perform _ last
      rw [step, find?_registryAfter, ih, registrant?_performAll, holder?, holder?]
      cases removed : last.deregisters sourceId with
      | true => simp [removed]
      | false => simp [removed, List.findSome?_append]

/-! ## Responses -/

/-- A source id leads to a source that takes responses, and a text is a spelling of the id of a call
that is pending there. -/
structure Routes (exchange : Exchange) (sourceId text : String) (name : SourceName)
    (source : Source) (id : CorrelationId) (ticket : Ticket) : Prop where
  registered : exchange.registry.find? sourceId = some name
  found : exchange.sources.find? name = some source
  enabled : source.enabled = true
  parsed : CorrelationId.parse? text = some id
  pending : source.ledger.find? id = some ticket

variable {name : SourceName} {source : Source} {id : CorrelationId} {ticket : Ticket}
  {text : String}

theorem reaches_registered_iff {payload : String} :
    exchange.Reaches (.registered sourceId text payload) name source id ticket ↔
      exchange.Routes sourceId text name source id ticket := by
  constructor
  · intro reaches
    have destination := reaches.destination
    rw [destination?] at destination
    cases registered : exchange.registry.find? sourceId with
    | none => simp [registered] at destination
    | some holder =>
        rw [registered] at destination
        rcases Option.map_eq_some_iff.mp destination with ⟨_, parsed, same⟩
        cases same
        exact ⟨registered, reaches.found, reaches.enabled, parsed, reaches.pending⟩
  · intro routes
    refine ⟨?_, routes.found, routes.enabled, routes.pending⟩
    simp [destination?, routes.registered, routes.parsed]

/-- A spelling matters for nothing but the id that it denotes. -/
theorem dispatch_spelling {spelling : String}
    (same : CorrelationId.parse? spelling = CorrelationId.parse? text) (payload : String) :
    exchange.dispatch (.registered sourceId spelling payload) =
      exchange.dispatch (.registered sourceId text payload) := by
  simp [dispatch, destination?, same, Dispatch.payload]

theorem Routes.dispatch_eq (routes : exchange.Routes sourceId text name source id ticket)
    (payload : String) :
    exchange.dispatch (.registered sourceId text payload) =
      exchange.dispatch (.typed name id payload) := by
  simp [dispatch, destination?, routes.registered, routes.parsed, Dispatch.payload]

/-- After a run whose sources have no calls at first, a pending call awaits its reply, and its
caller has left if and only if it has hung up in the run. -/
theorem awaits_performAll
    (silent : ∀ name source, exchange.sources.find? name = some source →
      source.pending = {} ∧ source.calls = [])
    {actions : List Action}
    (owned : ∀ name start, exchange.snapshot? name = some start →
      start.Owned (exchange.chronicle name actions))
    (found : (exchange.performAll actions).1.sources.find? name = some source)
    (pending : source.ledger.find? id = some ticket) :
    source.ledger.Awaits id ticket ∧
      ∃ start, exchange.snapshot? name = some start ∧
        (source.listens ticket = false ↔
          start.Leaves ticket (exchange.chronicle name actions)) := by
  rcases exists_start found with ⟨start, began, rfl⟩
  rcases Option.map_eq_some_iff.mp began with ⟨former, placed, rfl⟩
  have blank := silent name former placed
  have mine := owned name _ began
  have entries : former.ledger.pending.entries = Directory.empty := by
    rw [Source.ledger, blank.1]
  refine ⟨?_, _, began, Snapshot.listens_eq_false_iff blank.1 blank.2 mine pending⟩
  apply Snapshot.awaited_undergoAll (Ledger.sound_of_empty entries) ?_ mine id ticket pending
  intro other held present
  simp [Ledger.find?, entries] at present

/-- After any run of sources that share a registry, a response is addressed to a source id and to
the text of an id. It completes a call if and only if the source that holds the source id takes
responses and the text denotes an id that is pending there, and then the one call is completed and
nothing else changes. Otherwise nothing changes at all. The spelling of the id does not matter. -/
theorem responses_routed (vacant : exchange.registry = Directory.empty)
    (silent : ∀ name source, exchange.sources.find? name = some source →
      source.pending = {} ∧ source.calls = [])
    {actions : List Action}
    (owned : ∀ name start, exchange.snapshot? name = some start →
      start.Owned (exchange.chronicle name actions))
    (sourceId text payload : String) :
    let present := (exchange.performAll actions).1
    let answered := present.dispatch (.registered sourceId text payload)
    present.registry.find? sourceId = exchange.holder? sourceId actions ∧
      (answered.2 = true ↔
        ∃ name source id ticket, present.Routes sourceId text name source id ticket) ∧
      (∀ name source id ticket, present.Routes sourceId text name source id ticket →
        answered = present.dispatch (.typed name id payload) ∧
          present.Delivers name id payload ticket answered.1 ∧
          ∃ start, exchange.snapshot? name = some start ∧
            (source.listens ticket = false ↔
              start.Leaves ticket (exchange.chronicle name actions))) ∧
      (answered.2 = false → answered.1 = present) ∧
      ∀ id, CorrelationId.parse? text = some id →
        present.dispatch (.registered sourceId id.text payload) = answered ∧
          ∀ spelling, CorrelationId.parse? spelling = some id →
            present.dispatch (.registered sourceId spelling payload) = answered := by
  intro present answered
  refine ⟨find?_registry_performAll vacant actions sourceId, ?_, ?_, dispatch_eq_self, ?_⟩
  · rw [dispatch_iff]
    simp only [reaches_registered_iff]
  · intro name source id ticket routes
    have call := awaits_performAll silent owned routes.found routes.pending
    have reaches : present.Reaches (.registered sourceId text payload) name source id ticket :=
      reaches_registered_iff.mpr routes
    exact ⟨routes.dispatch_eq payload, reaches.delivers call.1, call.2⟩
  · intro id parsed
    refine ⟨dispatch_spelling ?_ payload, ?_⟩
    · rw [CorrelationId.parse?_text, parsed]
    · intro spelling denotes
      exact dispatch_spelling (denotes.trans parsed.symm) payload

/-- Two sources register under one id in turn, and the caller of the second one leaves before the
response comes. -/
theorem responses_routed_of_second_holder :
    let custom : Source := { id := "orders", enabled := false, timeout := ⟨5⟩, handler := none }
    let source : Source :=
      { id := "orders", timeout := ⟨5⟩, handler := some { listener := { keeps := false } } }
    let exchange : Exchange := { sources := Directory.ofList [("a", custom), ("b", source)] }
    let actions : List Action :=
      [.register "a", .register "b", .deregister "orders", .register "b", .register "a",
        .handle "b" "in" Directory.empty ⟨7⟩, .hangUp "b" 0]
    let text := (⟨7⟩ : CorrelationId).text
    let present := (exchange.performAll actions).1
    let answered := present.dispatch (.registered "orders" text "out")
    exchange.registry = Directory.empty ∧
      (∀ name source, exchange.sources.find? name = some source →
        source.pending = {} ∧ source.calls = []) ∧
      (∀ name start, exchange.snapshot? name = some start →
        start.Owned (exchange.chronicle name actions)) ∧
      present.registry.find? "orders" = some "b" ∧ answered.2 = true ∧
      (∃ source, present.Routes "orders" text "b" source ⟨7⟩ 0 ∧ source.listens 0 = false) ∧
      present.Delivers "b" ⟨7⟩ "out" 0 answered.1 := by
  intro custom source exchange actions text present answered
  have silent : ∀ name source, exchange.sources.find? name = some source →
      source.pending = {} ∧ source.calls = [] := by
    intro name state found
    have entry := Directory.find?_eq_some_iff.mp found
    change (name, state) ∈ [("a", custom), ("b", source)] at entry
    simp only [List.mem_cons, Prod.mk.injEq, List.not_mem_nil, or_false] at entry
    rcases entry with ⟨_, rfl⟩ | ⟨_, rfl⟩ <;> exact ⟨rfl, rfl⟩
  have owned : ∀ name start, exchange.snapshot? name = some start →
      start.Owned (exchange.chronicle name actions) := by
    intro name start _
    apply Snapshot.owned_of_ordinary
    intro occurrence member
    apply ordinary_chronicle ?_ member
    simp [actions, Action.isOrdinary]
  have routed := responses_routed rfl silent owned "orders" text "out"
  have routes : present.Routes "orders" text "b" _ ⟨7⟩ 0 :=
    ⟨rfl, rfl, rfl, CorrelationId.parse?_text ⟨7⟩, rfl⟩
  have completed := (routed.2.2.1 _ _ _ _ routes).2.1
  exact ⟨rfl, silent, owned, routed.1.trans rfl, routed.2.1.mpr ⟨_, _, _, _, routes⟩,
    ⟨_, routes, rfl⟩, completed⟩

end Exchange

end Rendezvous
