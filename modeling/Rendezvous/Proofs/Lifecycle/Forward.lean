import Rendezvous.Proofs.Lifecycle.Transition

/-!
# How the phases follow each other

The phase of a server moves forward from step to step, with one exception: a shutdown that has
claimed its turn while the start was still waiting goes on after the start has failed, and if it is
told then that the server has not ended, it takes the lifecycle out of its last phase again.
`Control.phases_forward_iff` says that nothing else takes the phase back.
-/

namespace Rendezvous

namespace Control

/-- The phase at first and after each step. -/
def phases (control : Control) : List ControlStep → List Phase
  | [] => [control.phase]
  | step :: rest =>
      control.phase :: match control.step? step with
        | none => []
        | some next => next.phases rest

/-- How often a phase is entered in a sequence of phases. -/
def entries (phase : Phase) : List Phase → Nat
  | first :: second :: rest =>
      (if first ≠ phase ∧ second = phase then 1 else 0) + entries phase (second :: rest)
  | _ => 0

/-- The start has failed, and afterwards a shutdown is told that the server has not ended. -/
def ForcedAfterFailure (steps : List ControlStep) : Prop :=
  ∃ error, [.serverStarted (.error error), .serverAwaited false].Sublist steps

variable {control next final : Control} {step : ControlStep} {steps : List ControlStep}

/-- What a transition does to the phase. Only the last case takes the phase back. -/
theorem Transition.phase_cases (transition : control.Transition step next)
    (sound : control.Sound) :
    next.phase = control.phase ∨ next.phase = .stopped ∨
      (control.phase = .created ∧ next.phase = .started) ∨
      (control.phase = .started ∧ next.phase = .shuttingDownGraceful) ∨
      (control.phase = .shuttingDownGraceful ∧ next.phase = .shuttingDownForced) ∨
      (control.phase = .stopped ∧ next.phase = .shuttingDownForced ∧
        step = .serverAwaited false) := by
  cases transition with
  | startLost prepared late => exact Or.inl rfl
  | startClaimed fresh => exact Or.inr (Or.inr (Or.inl ⟨fresh, rfl⟩))
  | startRefused error fresh => exact Or.inr (Or.inl rfl)
  | shutdownLost grace idle => exact Or.inl rfl
  | shutdownClaimed grace running => exact Or.inr (Or.inr (Or.inr (Or.inl ⟨running, rfl⟩)))
  | startAcquired free queued => exact Or.inl rfl
  | shutdownAcquired free queued => exact Or.inl rfl
  | serverUp address held starting => exact Or.inl rfl
  | serverFailed error held starting => exact Or.inr (Or.inl rfl)
  | drained held draining => exact Or.inr (Or.inl rfl)
  | killed held forcing => exact Or.inr (Or.inl rfl)
  | notKilled held forcing => exact Or.inl rfl
  | notDrained held draining =>
      have talking := count_pos draining
      have waiting : 0 < control.count .shutdownQueued + control.count .draining :=
        Nat.lt_of_lt_of_le talking (Nat.le_add_left _ _)
      rcases sound.patient waiting with graceful | stopped
      · exact Or.inr (Or.inr (Or.inr (Or.inr (Or.inl ⟨graceful, rfl⟩))))
      · exact Or.inr (Or.inr (Or.inr (Or.inr (Or.inr ⟨stopped, rfl, rfl⟩))))

/-! ## Starts that have failed -/

/-- The start has failed before or fails in a sequence of steps, and afterwards a shutdown is told
that the server has not ended. -/
def ForcedLater (failed : Prop) (steps : List ControlStep) : Prop :=
  (failed ∧ .serverAwaited false ∈ steps) ∨ ForcedAfterFailure steps

/-- A step by which the start fails. -/
def IsFailure (step : ControlStep) : Prop :=
  ∃ error, step = .serverStarted (.error error)

theorem forcedLater_cons (failed : Prop) (step : ControlStep) (rest : List ControlStep) :
    ForcedLater failed (step :: rest) ↔
      (failed ∧ step = .serverAwaited false) ∨ ForcedLater (failed ∨ IsFailure step) rest := by
  constructor
  · rintro (⟨before, member⟩ | ⟨error, sublist⟩)
    · rcases List.mem_cons.mp member with same | later
      · exact Or.inl ⟨before, same.symm⟩
      · exact Or.inr (Or.inl ⟨Or.inl before, later⟩)
    · cases sublist with
      | cons _ later => exact Or.inr (Or.inr ⟨error, later⟩)
      | cons_cons _ later =>
          exact Or.inr (Or.inl ⟨Or.inr ⟨error, rfl⟩, List.singleton_sublist.mp later⟩)
  · rintro (⟨before, rfl⟩ | ⟨before | ⟨error, rfl⟩, member⟩ | ⟨error, later⟩)
    · exact Or.inl ⟨before, List.mem_cons_self⟩
    · exact Or.inl ⟨before, List.mem_cons_of_mem _ member⟩
    · exact Or.inr ⟨error, (List.singleton_sublist.mpr member).cons_cons _⟩
    · exact Or.inr ⟨error, later.cons _⟩

/-- What holds of a control as long as no shutdown has forced it after the start has failed: a
shutdown under way has seen the last phase come only by a failed start, and that phase lasts. -/
structure Marked (control : Control) (failed : Prop) : Prop where
  sound : control.Sound
  /-- The last phase comes before the end of a shutdown only if the start has failed. -/
  stopped : control.phase = .stopped → 0 < control.count .shutdownQueued +
    control.count .draining + control.count .forcing → failed
  /-- Once the start has failed, the lifecycle is over and no shutdown forces it. -/
  broken : failed → control.phase = .stopped ∧ control.count .forcing = 0

theorem marked_new : Marked {} False where
  sound := sound_new
  stopped phase := by cases phase
  broken failed := failed.elim

/-- Unless it forces a lifecycle that is over, a transition keeps the marks. -/
theorem Transition.marked {failed : Prop} (transition : control.Transition step next)
    (marked : control.Marked failed)
    (kept : ¬(control.phase = .stopped ∧ next.phase = .shuttingDownForced)) :
    next.Marked (failed ∨ IsFailure step) := by
  have sound := transition.sound marked.sound
  rcases marked with ⟨⟨held, starts, shutdowns, fresh, early, patient⟩, stopped, broken⟩
  cases transition with
  | startLost | startClaimed | startRefused | shutdownLost | shutdownClaimed =>
      refine ⟨sound, ?_, ?_⟩ <;> grind [count, enlist, record, Progress.stage, IsFailure]
  | startAcquired free found | shutdownAcquired free found | serverUp _ holds found
  | serverFailed _ holds found | drained holds found | notDrained holds found | killed holds found
  | notKilled holds found =>
      have counted := count_pos found
      refine ⟨sound, ?_, ?_⟩ <;> grind [count, advance, record, Progress.stage, IsFailure]

/-! ## Sequences of phases -/

/-- A relation between phases that holds along every arrow of the lifecycle and is broken by the
step out of the last phase. -/
structure IsForward (related : Phase → Phase → Prop) : Prop where
  refl : ∀ phase, related phase phase
  trans : ∀ {first second third}, related first second → related second third →
    related first third
  stop : ∀ phase, related phase .stopped
  start : related .created .started
  shutdown : related .started .shuttingDownGraceful
  force : related .shuttingDownGraceful .shuttingDownForced
  final : ¬related .stopped .shuttingDownForced

theorem isForward_rank : IsForward fun earlier later => earlier.rank ≤ later.rank where
  refl _ := Nat.le_refl _
  trans := Nat.le_trans
  stop phase := by cases phase <;> decide
  start := by decide
  shutdown := by decide
  force := by decide
  final := by decide

theorem isForward_final : IsForward fun earlier later => earlier = .stopped → later = .stopped where
  refl _ := id
  trans first second := fun stopped => second (first stopped)
  stop _ := fun _ => rfl
  start := by decide
  shutdown := by decide
  force := by decide
  final := by decide

theorem head_phases (control : Control) (steps : List ControlStep) :
    ∃ rest, control.phases steps = control.phase :: rest := by
  cases steps <;> exact ⟨_, rfl⟩

theorem phases_cons (stepped : control.step? step = some next) (rest : List ControlStep) :
    control.phases (step :: rest) = control.phase :: next.phases rest := by
  rw [phases, stepped]

theorem related_of_head {related : Phase → Phase → Prop} (forward : IsForward related)
    (first : related control.phase next.phase) (ordered : (next.phases steps).Pairwise related) :
    ∀ phase ∈ next.phases steps, related control.phase phase := by
  rcases next.head_phases steps with ⟨rest, shape⟩
  rw [shape] at ordered ⊢
  intro phase member
  rcases List.mem_cons.mp member with rfl | later
  · exact first
  · exact forward.trans first ((List.pairwise_cons.mp ordered).1 phase later)

/-- A shutdown that is told by a marked control that the server has not ended, after the start has
failed, forces the lifecycle. -/
theorem Transition.forces {failed : Prop} (transition : control.Transition step next)
    (marked : control.Marked failed) (before : failed) (told : step = .serverAwaited false) :
    control.phase = .stopped ∧ next.phase = .shuttingDownForced := by
  rcases marked.broken before with ⟨stopped, none⟩
  subst told
  cases transition with
  | notDrained held draining => exact ⟨stopped, rfl⟩
  | notKilled held forcing => exact absurd (count_pos forcing) (Nat.not_lt.mpr (Nat.le_of_eq none))

/-- A lifecycle that is over is forced only after the start has failed. -/
theorem Transition.failed_of_forced {failed : Prop} (transition : control.Transition step next)
    (marked : control.Marked failed) (stopped : control.phase = .stopped)
    (forced : next.phase = .shuttingDownForced) : failed ∧ step = .serverAwaited false := by
  have told : step = .serverAwaited false := by
    rcases transition.phase_cases marked.sound with
      same | ends | ⟨_, two⟩ | ⟨_, two⟩ | ⟨one, _⟩ | ⟨_, _, told⟩
    · cases forced.symm.trans (same.trans stopped)
    · cases forced.symm.trans ends
    · cases forced.symm.trans two
    · cases forced.symm.trans two
    · cases stopped.symm.trans one
    · exact told
  refine ⟨?_, told⟩
  subst told
  cases transition with
  | notKilled held forcing => cases stopped.symm.trans forced
  | notDrained held draining =>
      have talking : 0 < control.count .draining := count_pos draining
      refine marked.stopped stopped ?_
      omega

/-- The phases of a run are related from step to step unless a shutdown forces a server that has
failed to start. -/
theorem pairwise_phases_iff {related : Phase → Phase → Prop} (forward : IsForward related)
    {failed : Prop} (marked : control.Marked failed) (ran : control.run? steps = some final) :
    (control.phases steps).Pairwise related ↔ ¬ForcedLater failed steps := by
  induction steps generalizing control failed with
  | nil => simp [phases, ForcedLater, ForcedAfterFailure]
  | cons step rest ih =>
      rcases step_of_run? ran with ⟨next, stepped, later⟩
      have transition := transition_of_step? stepped
      rw [phases_cons stepped, List.pairwise_cons, forcedLater_cons]
      by_cases kept : control.phase = .stopped ∧ next.phase = .shuttingDownForced
      · have forces := transition.failed_of_forced marked kept.1 kept.2
        refine iff_of_false ?_ (fun unforced => unforced (Or.inl forces))
        rintro ⟨first, _⟩
        rcases next.head_phases rest with ⟨others, shape⟩
        have broken := first next.phase (by rw [shape]; exact List.mem_cons_self)
        rw [kept.1, kept.2] at broken
        exact forward.final broken
      · have tail := ih (transition.marked marked kept) later
        have unforced : ¬(failed ∧ step = .serverAwaited false) :=
          fun ⟨before, told⟩ => kept (transition.forces marked before told)
        have first : related control.phase next.phase := by
          rcases transition.phase_cases marked.sound with
            same | stopped | ⟨one, two⟩ | ⟨one, two⟩ | ⟨one, two⟩ | ⟨one, two, _⟩
          · rw [same]
            exact forward.refl _
          · rw [stopped]
            exact forward.stop _
          · rw [one, two]
            exact forward.start
          · rw [one, two]
            exact forward.shutdown
          · rw [one, two]
            exact forward.force
          · exact absurd ⟨one, two⟩ kept
        constructor
        · rintro ⟨_, ordered⟩ (now | forced)
          · exact unforced now
          · exact tail.mp ordered forced
        · intro never
          have ordered := tail.mpr fun forced => never (Or.inr forced)
          exact ⟨related_of_head forward first ordered, ordered⟩

/-! ## The second phase -/

theorem Transition.phase_ne_started (transition : control.Transition step next)
    (sound : control.Sound) (past : control.phase ≠ .created) :
    next.phase ≠ .created ∧ (next.phase = .started → control.phase = .started) := by
  rcases transition.phase_cases sound with
    same | ends | ⟨one, _⟩ | ⟨_, two⟩ | ⟨_, two⟩ | ⟨_, two, _⟩
  · rw [same]
    exact ⟨past, id⟩
  · simp [ends]
  · exact absurd one past
  · simp [two]
  · simp [two]
  · simp [two]

/-- Once the first phase has passed, the second one is not entered any more. -/
theorem entries_of_ne_created (sound : control.Sound) (past : control.phase ≠ .created)
    (ran : control.run? steps = some final) : entries .started (control.phases steps) = 0 := by
  induction steps generalizing control with
  | nil => rfl
  | cons step rest ih =>
      rcases step_of_run? ran with ⟨next, stepped, later⟩
      have transition := transition_of_step? stepped
      have still := transition.phase_ne_started sound past
      have none := ih (transition.sound sound) still.1 later
      rw [phases_cons stepped]
      rcases next.head_phases rest with ⟨others, shape⟩
      rw [shape] at none ⊢
      rw [entries, none, if_neg]
      rintro ⟨notYet, entered⟩
      exact notYet (still.2 entered)

/-- The second phase is entered once at most. -/
theorem entries_started_le_one (sound : control.Sound) (ran : control.run? steps = some final) :
    entries .started (control.phases steps) ≤ 1 := by
  induction steps generalizing control with
  | nil => exact Nat.zero_le _
  | cons step rest ih =>
      rcases step_of_run? ran with ⟨next, stepped, later⟩
      have soundNext := (transition_of_step? stepped).sound sound
      rw [phases_cons stepped]
      rcases next.head_phases rest with ⟨others, shape⟩
      by_cases past : next.phase = .created
      · have few := ih soundNext later
        rw [shape] at few ⊢
        rw [entries, if_neg (by simp [past])]
        omega
      · have none := entries_of_ne_created soundNext past later
        rw [shape] at none ⊢
        rw [entries, none]
        split <;> omega

/-- In every run on a new control the second phase is entered once at most. The phases follow each
other in their order, and the last one is never left, if and only if no shutdown is told that the
server has not ended after the start has failed. -/
theorem phases_forward_iff (ran : ({} : Control).run? steps = some final) :
    entries .started (({} : Control).phases steps) ≤ 1 ∧
      ((({} : Control).phases steps).Pairwise (fun earlier later => earlier.rank ≤ later.rank) ↔
        ¬ForcedAfterFailure steps) ∧
      ((({} : Control).phases steps).Pairwise
          (fun earlier later => earlier = .stopped → later = .stopped) ↔
        ¬ForcedAfterFailure steps) := by
  have forced : ForcedLater False steps ↔ ForcedAfterFailure steps := by simp [ForcedLater]
  refine ⟨entries_started_le_one sound_new ran, ?_, ?_⟩
  · rw [pairwise_phases_iff isForward_rank marked_new ran, forced]
  · rw [pairwise_phases_iff isForward_final marked_new ran, forced]

/-- A server that starts and ends as it should. -/
theorem phases_forward_of_graceful_end :
    let steps : List ControlStep :=
      [.beginStart (.ok ()), .acquire 0, .serverStarted (.ok ⟨.v4 127 0 0 1, 8080⟩),
        .beginShutdown ⟨50⟩, .acquire 1, .serverAwaited true]
    (∃ final, ({} : Control).run? steps = some final) ∧ ¬ForcedAfterFailure steps ∧
      (({} : Control).phases steps).Pairwise fun earlier later => earlier.rank ≤ later.rank := by
  intro steps
  have ran : ∃ final, ({} : Control).run? steps = some final := ⟨_, rfl⟩
  have unforced : ¬ForcedAfterFailure steps := by
    rintro ⟨error, sublist⟩
    have told := sublist.subset (List.mem_cons_of_mem _ (List.mem_singleton_self _))
    simp [steps] at told
  rcases ran with ⟨final, ran⟩
  exact ⟨⟨final, ran⟩, unforced, (phases_forward_iff ran).2.1.mpr unforced⟩

/-- A shutdown claims its turn while the server starts. The start fails, and the shutdown is then
told that the server has not ended: the phase goes back from the last one. -/
theorem phases_not_forward_of_failed_start :
    let steps : List ControlStep :=
      [.beginStart (.ok ()), .acquire 0, .beginShutdown ⟨50⟩,
        .serverStarted (.error (.startup "port in use")), .acquire 1, .serverAwaited false]
    (∃ final, ({} : Control).run? steps = some final ∧ final.phase = .shuttingDownForced) ∧
      ({} : Control).phases steps = [.created, .started, .started, .shuttingDownGraceful, .stopped,
        .stopped, .shuttingDownForced] ∧
      ¬(({} : Control).phases steps).Pairwise fun earlier later => earlier.rank ≤ later.rank := by
  refine ⟨⟨_, rfl, rfl⟩, rfl, ?_⟩
  decide

end Control

end Rendezvous
