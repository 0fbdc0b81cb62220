import Mathlib.Data.List.Induction

/-!
# Runs

A run is a sequence of steps from a first state, each of which is possible in the state that the
steps before it lead to. What holds at first and is kept by every step holds after each run, and the
last step of a run comes after all its others.
-/

namespace Rendezvous

universe u v

variable {State : Type u} {Step : Type v}

/-- A run takes a step, from the state before it to the state after it. -/
def TakesStep (step? : State → Step → Option State) (first : State) (steps : List Step)
    (before : State) (step : Step) (after : State) : Prop :=
  ∃ earlier later, steps = earlier ++ step :: later ∧
    earlier.foldlM step? first = some before ∧ step? before step = some after

variable {step? : State → Step → Option State} {first state next : State} {steps : List Step}
  {last : Step}

theorem takesStep_nil {before after : State} {step : Step} :
    ¬ TakesStep step? first [] before step after := by
  rintro ⟨earlier, later, split, _, _⟩
  simp at split

/-- A step that a run takes is its first one or is taken afterwards. -/
theorem takesStep_cons {before after : State} {step head : Step}
    (stepped : step? first head = some next)
    (taken : TakesStep step? first (head :: steps) before step after) :
    (before = first ∧ step = head ∧ after = next) ∨
      TakesStep step? next steps before step after := by
  rcases taken with ⟨_ | ⟨earliest, earlier⟩, later, split, reached, moved⟩
  · cases split
    cases reached
    cases moved.symm.trans stepped
    exact Or.inl ⟨rfl, rfl, rfl⟩
  · cases split
    rw [List.foldlM_cons, stepped] at reached
    exact Or.inr ⟨earlier, later, rfl, reached, moved⟩

theorem TakesStep.stepped {before after : State} {step : Step}
    (taken : TakesStep step? first steps before step after) : step? before step = some after := by
  rcases taken with ⟨_, _, _, _, stepped⟩
  exact stepped

/-- What follows a step leads from the state after it to the end of the run. -/
theorem TakesStep.rest {before after final : State} {step : Step}
    (taken : TakesStep step? first steps before step after)
    (ran : steps.foldlM step? first = some final) :
    ∃ later : List Step, later.foldlM step? after = some final := by
  rcases taken with ⟨earlier, later, rfl, reached, stepped⟩
  refine ⟨later, ?_⟩
  rw [List.foldlM_append, reached] at ran
  simpa [stepped] using ran

/-- Induction on the number of steps, where the last step comes last. -/
theorem run_induction {motive : List Step → State → Prop} (start : motive [] first)
    (keep : ∀ steps state last next, steps.foldlM step? first = some state →
      motive steps state → step? state last = some next → motive (steps ++ [last]) next)
    {final : State} (ran : steps.foldlM step? first = some final) : motive steps final := by
  induction steps using List.reverseRecOn generalizing final with
  | nil =>
      cases ran
      exact start
  | append_singleton steps last ih =>
      rw [List.foldlM_append] at ran
      rcases Option.bind_eq_some_iff.mp ran with ⟨state, reached, stepped⟩
      refine keep steps state last final reached (ih reached) ?_
      simpa using stepped

/-- What holds at first and is kept by every step that the run takes holds all along it. -/
theorem holds_along {motive : State → Prop} (start : motive first)
    (keep : ∀ before step after, TakesStep step? first steps before step after →
      motive before → motive after) {earlier later : List Step} (split : steps = earlier ++ later)
    (reached : earlier.foldlM step? first = some state) : motive state := by
  induction earlier using List.reverseRecOn generalizing later state with
  | nil =>
      cases reached
      exact start
  | append_singleton rest last ih =>
      rw [List.foldlM_append] at reached
      rcases Option.bind_eq_some_iff.mp reached with ⟨before, came, stepped⟩
      have moved : step? before last = some state := by simpa using stepped
      rw [List.append_assoc, List.singleton_append] at split
      exact keep before last state ⟨rest, later, split, came, moved⟩ (ih split came)

/-- A step that a run takes is its last one or was taken before. -/
theorem takesStep_concat {before after : State} {step : Step}
    (ran : steps.foldlM step? first = some state) (stepped : step? state last = some next)
    (taken : TakesStep step? first (steps ++ [last]) before step after) :
    TakesStep step? first steps before step after ∨
      (before = state ∧ step = last ∧ after = next) := by
  rcases taken with ⟨earlier, later, split, reached, moved⟩
  rcases List.eq_nil_or_concat later with rfl | ⟨rest, final, rfl⟩
  · rcases List.append_inj' split rfl with ⟨rfl, same⟩
    cases same
    cases reached.symm.trans ran
    cases moved.symm.trans stepped
    exact Or.inr ⟨rfl, rfl, rfl⟩
  · rw [List.concat_eq_append, ← List.cons_append, ← List.append_assoc] at split
    rcases List.append_inj' split rfl with ⟨rfl, _⟩
    exact Or.inl ⟨earlier, rest, rfl, reached, moved⟩

end Rendezvous
