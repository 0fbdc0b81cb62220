import Rendezvous.Proofs.Occurrence.Chronicle

/-!
# Ordinary runs

In an ordinary run calls are made, dispatches arrive, deadlines are handed out and callers leave,
but nobody works on the table of the source, on its deadlines or on the end of a call by hand. The
chronicle of a source in an ordinary run is ordinary, and its calls are made under the ids that the
run names (`Exchange.minted_chronicle`).
-/

namespace Rendezvous

/-- Nobody works on the table, on a deadline or on the end of a call by hand. -/
def Occurrence.isOrdinary : Occurrence → Bool
  | .insert _ | .withdraw _ | .arm _ | .resolve _ _ | .drop _ => false
  | _ => true

/-- The id that a call is made under. -/
def Occurrence.minted? : Occurrence → Option CorrelationId
  | .accept _ _ id => some id
  | _ => none

/-- A step of the deadline task is ordinary and no call. -/
theorem Occurrence.plain_of_step {occurrence : Occurrence} (step : occurrence.isStep = true) :
    occurrence.isOrdinary = true ∧ occurrence.minted? = none := by
  cases occurrence with
  | receive => exact ⟨rfl, rfl⟩
  | fire => exact ⟨rfl, rfl⟩
  | stopAccepting => exact ⟨rfl, rfl⟩
  | finish => exact ⟨rfl, rfl⟩
  | _ => cases step

theorem Occurrence.unminted_cons {occurrence : Occurrence} {rest : List Occurrence}
    {id : CorrelationId} (unminted : id ∉ (occurrence :: rest).filterMap minted?) :
    occurrence.minted? ≠ some id ∧ id ∉ rest.filterMap minted? := by
  constructor
  · intro same
    exact unminted (List.mem_filterMap.mpr ⟨occurrence, List.mem_cons_self, same⟩)
  · exact fun later => unminted (((List.sublist_cons_self _ _).filterMap _).subset later)

/-- Nobody works on the table of a source, on a deadline of it or on the end of one of its calls by
hand. -/
def Action.isOrdinary (name : SourceName) : Action → Bool
  | .insert other _ | .withdraw other _ | .arm other _ | .resolve other _ _ | .drop other _ =>
      decide (other ≠ name)
  | _ => true

/-- The id that a call to a source is made under. -/
def Action.minted? (name : SourceName) : Action → Option CorrelationId
  | .handle other _ _ id => if other = name then some id else none
  | _ => none

namespace Exchange

variable {exchange : Exchange} {name other : SourceName} {occurrence : Occurrence}

theorem mem_forSource {candidate : Occurrence}
    (member : candidate ∈ forSource name other occurrence) :
    candidate = occurrence ∧ other = name := by
  rw [forSource] at member
  split at member
  · exact ⟨List.mem_singleton.mp member, ‹_›⟩
  · cases member

/-- What a dispatch is for a source is ordinary and no call. -/
theorem mem_completions {attempt : Dispatch}
    (member : occurrence ∈ exchange.completions name attempt) :
    occurrence.isOrdinary = true ∧ occurrence.minted? = none := by
  rw [completions] at member
  split at member
  · cases member
  · rw [(mem_forSource member).1]
    exact ⟨rfl, rfl⟩

/-- What a listener does is ordinary, and it makes no calls. -/
theorem mem_reactions {listener : Listener} {event : Event}
    (member : occurrence ∈ exchange.reactions name other listener event) :
    occurrence.isOrdinary = true ∧ occurrence.minted? = none := by
  rw [reactions] at member
  rcases List.mem_append.mp member with dispatched | kept
  · rcases List.mem_flatMap.mp dispatched with ⟨attempt, _, completion⟩
    exact mem_completions completion
  · split at kept
    · rw [(mem_forSource kept).1]
      exact ⟨rfl, rfl⟩
    · cases kept

theorem mem_occurrences_handle {payload : String} {metadata : Metadata} {id : CorrelationId}
    (member : occurrence ∈ exchange.occurrences name (.handle other payload metadata id)) :
    (occurrence = .accept payload metadata id ∧ other = name) ∨
      (occurrence.isOrdinary = true ∧ occurrence.minted? = none) := by
  rcases List.mem_append.mp member with call | reaction
  · exact Or.inl (mem_forSource call)
  · split at reaction
    · cases reaction
    · exact Or.inr (mem_reactions reaction)

theorem mem_occurrences_echo
    (member : occurrence ∈ exchange.occurrences name (.echo other)) :
    occurrence.isOrdinary = true ∧ occurrence.minted? = none := by
  rw [occurrences] at member
  split at member
  · cases member
  · rename_i sourceId event taken
    rcases List.mem_append.mp member with here | response
    · rw [(mem_forSource here).1]
      exact ⟨rfl, rfl⟩
    · cases found : echo? sourceId event with
      | none => simp [found] at response
      | some attempt =>
          rw [found] at response
          exact mem_completions response

theorem ordinary_occurrences {action : Action} (ordinary : action.isOrdinary name = true)
    (member : occurrence ∈ exchange.occurrences name action) : occurrence.isOrdinary = true := by
  cases action with
  | handle other payload metadata id =>
      rcases mem_occurrences_handle member with ⟨rfl, _⟩ | quiet
      · rfl
      · exact quiet.1
  | dispatch attempt => exact (mem_completions member).1
  | echo other => exact (mem_occurrences_echo member).1
  | insert other id => exact absurd (mem_forSource member).2 (of_decide_eq_true ordinary)
  | arm other id => exact absurd (mem_forSource member).2 (of_decide_eq_true ordinary)
  | withdraw other id => exact absurd (mem_forSource member).2 (of_decide_eq_true ordinary)
  | resolve other ticket outcome =>
      exact absurd (mem_forSource member).2 (of_decide_eq_true ordinary)
  | drop other ticket => exact absurd (mem_forSource member).2 (of_decide_eq_true ordinary)
  | advance duration =>
      rw [List.mem_singleton.mp member]
      rfl
  | register other => cases member
  | deregister sourceId => cases member
  | _ =>
      rw [(mem_forSource member).1]
      rfl

/-- An action makes at most one call to a source. -/
theorem minted_occurrences (exchange : Exchange) (name : SourceName) (action : Action) :
    (exchange.occurrences name action).filterMap Occurrence.minted? =
      (action.minted? name).toList := by
  have silent : ∀ occurrences : List Occurrence,
      (∀ occurrence ∈ occurrences, occurrence.minted? = none) →
        occurrences.filterMap Occurrence.minted? = [] :=
    fun _ none => List.filterMap_eq_nil_iff.mpr none
  cases action with
  | handle other payload metadata id =>
      have call : (forSource name other (.accept payload metadata id)).filterMap
          Occurrence.minted? = ((Action.handle other payload metadata id).minted? name).toList := by
        by_cases same : other = name <;> simp [forSource, Action.minted?, same, Occurrence.minted?]
      rw [← call, occurrences, List.filterMap_append]
      cases exchange.event? other payload metadata id with
      | none => exact List.append_nil _
      | some told =>
          rw [silent (exchange.reactions name other told.1 told.2) fun _ member =>
            (mem_reactions member).2, List.append_nil]
  | dispatch attempt => exact silent _ fun _ member => (mem_completions member).2
  | echo other => exact silent _ fun _ member => (mem_occurrences_echo member).2
  | register other => rfl
  | deregister sourceId => rfl
  | advance duration => rfl
  | _ =>
      refine silent _ fun _ member => ?_
      rw [(mem_forSource member).1]
      rfl

theorem ordinary_chronicle {actions : List Action}
    (ordinary : ∀ action ∈ actions, action.isOrdinary name = true)
    (member : occurrence ∈ exchange.chronicle name actions) : occurrence.isOrdinary = true := by
  induction actions generalizing exchange with
  | nil => cases member
  | cons action rest ih =>
      rcases List.mem_append.mp member with here | later
      · exact ordinary_occurrences (ordinary action List.mem_cons_self) here
      · exact ih (fun other present => ordinary other (List.mem_cons_of_mem _ present)) later

theorem minted_chronicle (exchange : Exchange) (name : SourceName) (actions : List Action) :
    (exchange.chronicle name actions).filterMap Occurrence.minted? =
      actions.filterMap (Action.minted? name) := by
  induction actions generalizing exchange with
  | nil => rfl
  | cons action rest ih =>
      rw [chronicle, List.filterMap_append, minted_occurrences, ih, List.filterMap_cons]
      cases action.minted? name <;> rfl

end Exchange

end Rendezvous
