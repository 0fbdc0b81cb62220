import Rendezvous.Proofs.Deadlines.Punctuality

/-!
# The deadline task comes to rest

Every step of a deadline task leaves less to do, and while a task does not rest it can take a step.
So a task that was started can always come to rest by its own steps alone
(`Snapshot.exists_idle`), and it cannot work for ever (`Snapshot.Works.length_le`).
-/

namespace Rendezvous

namespace DeadlineTask

variable {task next : DeadlineTask} {now : Instant}

/-- How many steps a task can take at most without anything new. A deadline in the inbox is taken up
and handed out. -/
def effort (task : DeadlineTask) : Nat :=
  2 * task.inbox.length + task.agenda.deadlines.length + task.accepting.toNat +
    if task.phase = .finished then 0 else 1

theorem effort_receive (received : task.receive? = some next) : next.effort < task.effort := by
  rcases eq_of_receive? received with ⟨deadline, rest, inbox, _, rfl⟩
  have pushed := (task.agenda.push_perm deadline).length_eq
  simp only [effort, inbox, pushed, List.length_cons]
  omega

theorem effort_fire {fired : List Deadline} (handed : task.fire? now = some (fired, next)) :
    next.effort < task.effort := by
  have some' : fired ≠ [] := by
    rintro rfl
    rw [fire?] at handed
    split at handed
    · split at handed <;> cases handed
    · cases handed
  have parts := (outstanding_fire handed).length_eq
  have more := List.length_pos_iff.mpr some'
  rcases eq_of_fire? handed with ⟨_, _, rfl⟩
  simp only [outstanding, List.length_append] at parts
  simp only [effort]
  omega

theorem effort_close (closed : task.close? = some next) : next.effort < task.effort := by
  rw [close?] at closed
  split at closed
  · rename_i possible
    cases closed
    simp [effort, possible.2.1]
  · cases closed

theorem effort_finish (finished : task.finish? = some next) : next.effort < task.effort := by
  rw [finish?] at finished
  split at finished
  · rename_i possible
    cases finished
    simp [effort, possible.1]
  · cases finished

end DeadlineTask

namespace Snapshot

variable {snapshot : Snapshot}

/-- A task rests, or a step of it leaves less to do. -/
theorem rests_or_step (snapshot : Snapshot) :
    snapshot.source.task.Rests snapshot.now ∨
      ∃ occurrence : Occurrence, occurrence.isStep = true ∧
        (snapshot.undergo occurrence).source.task.effort < snapshot.source.task.effort := by
  have worked : ∀ step? next, step? snapshot.source.task = some next →
      (snapshot.source.work step?).task = next := by
    intro step? next taken
    rw [Source.task_work, taken, Option.getD_some]
  cases received : snapshot.source.task.receive? with
  | some next =>
      refine Or.inr ⟨.receive, rfl, ?_⟩
      rw [show (snapshot.undergo .receive).source.task = next from worked _ _ received]
      exact DeadlineTask.effort_receive received
  | none =>
      cases handed : snapshot.source.task.fire? snapshot.now with
      | some result =>
          refine Or.inr ⟨.fire, rfl, ?_⟩
          have task : (snapshot.undergo .fire).source.task = result.2 := by
            simp only [undergo, Source.undergo, Source.fire?, handed, Option.map_some,
              Source.expireAll_eq, Source.task_withLedger]
            rfl
          rw [task]
          exact DeadlineTask.effort_fire handed
      | none =>
          cases closed : snapshot.source.task.close? with
          | some next =>
              refine Or.inr ⟨.stopAccepting, rfl, ?_⟩
              rw [show (snapshot.undergo .stopAccepting).source.task = next from
                worked _ _ closed]
              exact DeadlineTask.effort_close closed
          | none =>
              cases finished : snapshot.source.task.finish? with
              | some next =>
                  refine Or.inr ⟨.finish, rfl, ?_⟩
                  rw [show (snapshot.undergo .finish).source.task = next from
                    worked _ _ finished]
                  exact DeadlineTask.effort_finish finished
              | none => exact Or.inl ⟨received, handed, closed, finished⟩

/-- The task takes these steps one after another, and each of them does something. -/
def Works (snapshot : Snapshot) : List Occurrence → Prop
  | [] => True
  | step :: rest =>
      step.isStep = true ∧ snapshot.undergo step ≠ snapshot ∧ (snapshot.undergo step).Works rest

/-- A step of the task does nothing, or it leaves less to do. -/
theorem effort_undergo_step {step : Occurrence} (own : step.isStep = true) :
    snapshot.undergo step = snapshot ∨
      (snapshot.undergo step).source.task.effort < snapshot.source.task.effort := by
  have moved := snapshot.source.taskMove_undergo snapshot.now step
  have parts := undergo_step_eq snapshot.source snapshot.now own
  change _ ∨ (snapshot.source.undergo snapshot.now step).task.effort < _
  generalize (snapshot.source.undergo snapshot.now step).task = task at moved parts ⊢
  cases moved with
  | stays unarmed unfired =>
      left
      have still : snapshot.after step = snapshot.now := by
        cases step with
        | pass duration => cases own
        | _ => rfl
      rw [unfired] at parts
      rw [undergo, still, parts]
      rfl
  | arms armed => cases own.symm.trans (Source.foreign_of_armed armed)
  | recounts _ foreign => cases own.symm.trans foreign
  | spawns => cases own
  | abandons => cases own
  | receives received => exact Or.inr (DeadlineTask.effort_receive received)
  | stops closed => exact Or.inr (DeadlineTask.effort_close closed)
  | finishes finished => exact Or.inr (DeadlineTask.effort_finish finished)
  | fires handed => exact Or.inr (DeadlineTask.effort_fire handed)

variable {steps : List Occurrence}

theorem Works.isStep (works : snapshot.Works steps) : ∀ step ∈ steps, step.isStep = true := by
  induction steps generalizing snapshot with
  | nil => simp
  | cons step rest ih => exact List.forall_mem_cons.mpr ⟨works.1, ih works.2.2⟩

/-- Without anything new the task cannot go on for ever. -/
theorem Works.length_le (works : snapshot.Works steps) :
    steps.length ≤ snapshot.source.task.effort := by
  induction steps generalizing snapshot with
  | nil => exact Nat.zero_le _
  | cons step rest ih =>
      rcases works with ⟨own, changes, works⟩
      rcases effort_undergo_step own with same | less
      · exact absurd same changes
      · exact Nat.lt_of_le_of_lt (ih works) less

/-- A task that was started can work until it has nothing to do. -/
theorem exists_works (started : snapshot.source.task.Started) :
    ∃ steps, snapshot.Works steps ∧ (snapshot.undergoAll steps).IsIdle := by
  generalize left : snapshot.source.task.effort = effort
  induction effort using Nat.strongRecOn generalizing snapshot with
  | ind effort ih =>
      rcases snapshot.rests_or_step with rests | ⟨occurrence, step, less⟩
      · exact ⟨[], trivial, started, rests⟩
      · rcases ih _ (left ▸ less) (started_undergo started occurrence) rfl with
          ⟨rest, works, idle⟩
        have changes : snapshot.undergo occurrence ≠ snapshot := by
          intro same
          rw [same] at less
          exact Nat.lt_irrefl _ less
        exact ⟨occurrence :: rest, ⟨step, changes, works⟩, idle⟩

/-- A task that was started can come to rest by its own steps alone. -/
theorem exists_idle (started : snapshot.source.task.Started) :
    ∃ steps, (∀ step ∈ steps, step.isStep = true) ∧ (snapshot.undergoAll steps).IsIdle := by
  rcases exists_works started with ⟨steps, works, idle⟩
  exact ⟨steps, works.isStep, idle⟩

end Snapshot

end Rendezvous
