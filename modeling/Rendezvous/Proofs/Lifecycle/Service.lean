import Rendezvous.Proofs.Lifecycle.Transition

/-!
# When a server is in service

A server is in service from the moment at which a start has prepared it until that start fails or
the shutdown ends that has claimed its turn. `Control.Standing.inService_iff` tells this from the
numbers of operations, and `Control.Transition.inService_iff` says which steps begin and end the
service. A start that fails after a shutdown has claimed its turn takes the server out of service,
and the shutdown does so again; otherwise nothing takes a server out of service that is not in it
(`Control.Guarded.inService_of_withdraws`).
-/

namespace Rendezvous

/-- Whether an operation is a start that has prepared the server and has not failed. -/
def Progress.mayServe : Progress → Bool
  | .startQueued => true
  | .starting => true
  | .startEnded (.ok _) => true
  | _ => false

/-- Whether an operation is a shutdown that has ended after it had claimed its turn. -/
def Progress.isOver : Progress → Bool
  | .shutdownEnded (.ok .notRunning) => false
  | .shutdownEnded _ => true
  | _ => false

namespace Control

/-- A start has prepared the server and has not failed, and no shutdown has ended but those that
had nothing to do. -/
def InService (control : Control) : Prop :=
  (∃ operation, (operation, .prepared true) ∈ control.deeds ∧
      ∀ error, control.operations[operation]? ≠ some (.startEnded (.error error))) ∧
    ∀ (operation : OperationNumber) (result : ShutdownResult),
      control.operations[operation]? = some (.shutdownEnded result) → result = .ok .notRunning

/-- A step takes a server out of service: the start fails, or the shutdown that has claimed its turn
ends. -/
def Withdraws (step : ControlStep) (next : Control) : Prop :=
  (∃ error, step = .serverStarted (.error error)) ∨
    ((∃ terminated, step = .serverAwaited terminated) ∧ next.holder = none)

/-- Some start has claimed its turn and has not ended. -/
def StartUnderWay (control : Control) : Prop :=
  ∃ operation : OperationNumber, control.operations[operation]? = some .startQueued ∨
    control.operations[operation]? = some .starting

/-- The number of starts that have prepared the server and have not failed. -/
def serving (control : Control) : Nat :=
  control.operations.countP Progress.mayServe

/-- The number of shutdowns that have ended after they had claimed their turns. -/
def shutdownsOver (control : Control) : Nat :=
  control.operations.countP Progress.isOver

/-- The number of shutdowns that have claimed their turns and have not ended. -/
def shuttingDown (control : Control) : Nat :=
  control.count .shutdownQueued + control.count .draining + control.count .forcing

variable {control next final : Control} {step : ControlStep} {steps : List ControlStep}

/-! ## Counting -/

/-- What the phase says about the numbers of operations. -/
structure Serving (control : Control) : Prop where
  sound : control.Sound
  starts : control.serving ≤ 1
  shutdowns : control.shuttingDown + control.shutdownsOver ≤ 1
  fresh : control.phase = .created → control.serving = 0
  running : control.phase = .started → 0 < control.serving
  calm : control.phase = .created ∨ control.phase = .started → control.shutdownsOver = 0
  /-- The last phases come with a shutdown or with the failure of the start. -/
  late : control.phase ≠ .created → control.phase ≠ .started →
    0 < control.shuttingDown ∨ 0 < control.shutdownsOver ∨ control.serving = 0

theorem serving_new : ({} : Control).Serving := by
  refine ⟨sound_new, ?_, ?_, ?_, ?_, ?_, ?_⟩ <;> simp [serving, shuttingDown, shutdownsOver, count]

theorem serving_pos {operation : OperationNumber} {progress : Progress}
    (found : control.operations[operation]? = some progress) (serves : progress.mayServe = true) :
    0 < control.serving :=
  List.countP_pos_iff.mpr ⟨progress, List.mem_of_getElem? found, serves⟩

theorem shuttingDown_pos {operation : OperationNumber} {progress : Progress}
    (found : control.operations[operation]? = some progress)
    (shuts : progress.shutsDown = true) : 0 < control.shuttingDown := by
  have counted := count_pos found
  rw [shuttingDown]
  cases progress with
  | shutdownQueued | draining | forcing =>
      simp only [Progress.stage] at counted
      omega
  | _ => cases shuts

theorem exists_of_count_pos {stage : Stage} (filled : 0 < control.count stage) :
    ∃ (operation : OperationNumber) (progress : Progress),
      control.operations[operation]? = some progress ∧ progress.stage = stage := by
  rcases List.countP_pos_iff.mp filled with ⟨progress, member, same⟩
  rcases List.getElem?_of_mem member with ⟨operation, found⟩
  exact ⟨operation, progress, found, of_decide_eq_true same⟩

theorem startUnderWay_iff :
    control.StartUnderWay ↔ 0 < control.count .startQueued + control.count .starting := by
  constructor
  · rintro ⟨operation, queued | starting⟩
    · exact Nat.add_pos_left (count_pos queued) _
    · exact Nat.add_pos_right _ (count_pos starting)
  · intro some
    rcases Nat.add_pos_iff_pos_or_pos.mp some with queued | starting
    · rcases exists_of_count_pos queued with ⟨operation, progress, found, same⟩
      cases progress <;> cases same
      exact ⟨operation, Or.inl found⟩
    · rcases exists_of_count_pos starting with ⟨operation, progress, found, same⟩
      cases progress <;> cases same
      exact ⟨operation, Or.inr found⟩

theorem Transition.serving (transition : control.Transition step next)
    (served : control.Serving) : next.Serving := by
  have sound := transition.sound served.sound
  rcases served with ⟨⟨held, begun, shut, fresh, early, patient⟩, starts, shutdowns, new,
    running, calm, late⟩
  cases transition with
  | startLost | startClaimed | startRefused | shutdownLost | shutdownClaimed =>
      refine ⟨sound, ?_, ?_, ?_, ?_, ?_, ?_⟩ <;>
        grind [Control.serving, shuttingDown, shutdownsOver, count, enlist, record, Progress.stage,
          Progress.mayServe, Progress.isOver]
  | startAcquired free found | shutdownAcquired free found | serverUp _ holds found
  | serverFailed _ holds found | drained holds found | notDrained holds found | killed holds found
  | notKilled holds found =>
      have counted := count_pos found
      refine ⟨sound, ?_, ?_, ?_, ?_, ?_, ?_⟩ <;>
        grind [Control.serving, shuttingDown, shutdownsOver, count, advance, record, Progress.stage,
          Progress.mayServe, Progress.isOver]

/-! ## Who has prepared the server -/

/-- The starts that have prepared the server, and their ways. -/
structure Prepared (control : Control) : Prop where
  /-- A start that may serve has prepared the server. -/
  done : ∀ operation progress, control.operations[operation]? = some progress →
    progress.mayServe = true → (operation, .prepared true) ∈ control.deeds
  /-- Whoever has prepared the server is a start that may serve or has failed. -/
  way : ∀ operation, (operation, .prepared true) ∈ control.deeds →
    ∃ progress, control.operations[operation]? = some progress ∧
      (progress.mayServe = true ∨ ∃ error, progress = .startEnded (.error error))

theorem prepared_new : ({} : Control).Prepared where
  done _ _ found := by simp at found
  way _ member := by cases member

theorem Prepared.enlist {progress : Progress} (prepared : control.Prepared)
    (listed : next.operations = control.operations ++ [progress])
    (deeds : next.deeds = control.deeds) (idle : progress.mayServe = false) : next.Prepared where
  done operation other found serves := by
    rw [listed, getElem?_concat_eq_some] at found
    rw [deeds]
    rcases found with before | ⟨_, rfl⟩
    · exact prepared.done operation other before serves
    · cases idle.symm.trans serves
  way operation member := by
    rw [deeds] at member
    rcases prepared.way operation member with ⟨other, found, way⟩
    exact ⟨other, by rw [listed, getElem?_concat_eq_some]; exact Or.inl found, way⟩

theorem Prepared.prepare {progress : Progress} {succeeded : Bool} (prepared : control.Prepared)
    (listed : next.operations = control.operations ++ [progress])
    (deeds : next.deeds = control.deeds ++ [(control.nextOperation, .prepared succeeded)])
    (serves : progress.mayServe = succeeded) : next.Prepared where
  done operation other found serving := by
    rw [listed, getElem?_concat_eq_some] at found
    rw [deeds, List.mem_append]
    rcases found with before | ⟨rfl, rfl⟩
    · exact Or.inl (prepared.done operation other before serving)
    · rw [← serves, serving]
      exact Or.inr (List.mem_singleton_self _)
  way operation member := by
    rw [deeds, List.mem_append, List.mem_singleton] at member
    rcases member with before | same
    · rcases prepared.way operation before with ⟨other, found, way⟩
      exact ⟨other, by rw [listed, getElem?_concat_eq_some]; exact Or.inl found, way⟩
    · cases same
      exact ⟨progress, by rw [listed]; simp [nextOperation], Or.inl serves⟩

/-- An operation that comes further without preparing the server. -/
theorem Prepared.advance {operation : OperationNumber} {old progress : Progress}
    {done : List (OperationNumber × Deed)} (prepared : control.Prepared)
    (listed : next.operations = control.operations.set operation progress)
    (deeds : next.deeds = control.deeds ++ done)
    (calls : ∀ entry ∈ done, entry.2 ≠ .prepared true)
    (found : control.operations[operation]? = some old) (underWay : old.hasEnded = false)
    (kept : progress.mayServe = true → old.mayServe = true)
    (fails : old.mayServe = true →
      progress.mayServe = true ∨ ∃ error, progress = .startEnded (.error error)) :
    next.Prepared where
  done other later still serves := by
    rw [listed, getElem?_set_eq_some] at still
    rw [deeds, List.mem_append]
    rcases still with ⟨_, before⟩ | ⟨rfl, _, rfl⟩
    · exact Or.inl (prepared.done other later before serves)
    · exact Or.inl (prepared.done other old found (kept serves))
  way other member := by
    rw [deeds, List.mem_append] at member
    have before := member.resolve_right fun now => calls _ now rfl
    rcases prepared.way other before with ⟨progress', found', way⟩
    by_cases same : other = operation
    · subst same
      cases found.symm.trans found'
      have within := (List.getElem?_eq_some_iff.mp found).1
      refine ⟨progress, by rw [listed, getElem?_set_eq_some]; exact Or.inr ⟨rfl, within, rfl⟩, ?_⟩
      rcases way with serves | ⟨error, rfl⟩
      · exact fails serves
      · cases underWay
    · exact ⟨progress', by rw [listed, getElem?_set_eq_some]; exact Or.inl ⟨same, found'⟩, way⟩

theorem Transition.prepared (transition : control.Transition step next)
    (prepared : control.Prepared) : next.Prepared := by
  cases transition with
  | startLost | shutdownLost | shutdownClaimed => exact prepared.enlist rfl rfl rfl
  | startClaimed | startRefused => exact prepared.prepare rfl rfl rfl
  | startAcquired free found =>
      exact prepared.advance rfl rfl (by simp) found rfl (fun _ => rfl) (fun _ => Or.inl rfl)
  | shutdownAcquired free found =>
      exact prepared.advance rfl (List.append_assoc _ _ _) (by simp) found rfl nofun nofun
  | serverUp address held found =>
      exact prepared.advance rfl (List.append_nil _).symm nofun found rfl (fun _ => rfl)
        (fun _ => Or.inl rfl)
  | serverFailed error held found =>
      exact prepared.advance rfl (List.append_nil _).symm nofun found rfl nofun
        (fun _ => Or.inr ⟨error, rfl⟩)
  | drained held found | killed held found | notKilled held found =>
      exact prepared.advance rfl (List.append_nil _).symm nofun found rfl nofun nofun
  | notDrained held found =>
      exact prepared.advance rfl (List.append_assoc _ _ _) (by simp) found rfl nofun nofun

/-! ## When the service begins and ends -/

/-- What holds of a control at any time, as far as its service is concerned. -/
structure Standing (control : Control) : Prop where
  serving : control.Serving
  prepared : control.Prepared

theorem standing_new : ({} : Control).Standing :=
  ⟨serving_new, prepared_new⟩

theorem Transition.standing (transition : control.Transition step next)
    (standing : control.Standing) : next.Standing :=
  ⟨transition.serving standing.serving, transition.prepared standing.prepared⟩

theorem shutdownsOver_eq_zero_iff :
    control.shutdownsOver = 0 ↔
      ∀ (operation : OperationNumber) (result : ShutdownResult),
        control.operations[operation]? = some (.shutdownEnded result) →
          result = .ok .notRunning := by
  rw [shutdownsOver, List.countP_eq_zero]
  constructor
  · intro none operation result found
    have done := none _ (List.mem_of_getElem? found)
    rcases result with _ | (_ | _ | _)
    · exact absurd rfl done
    · rfl
    · exact absurd rfl done
    · exact absurd rfl done
  · intro early progress member ended
    rcases List.getElem?_of_mem member with ⟨operation, found⟩
    cases progress with
    | shutdownEnded result =>
        rw [early operation result found] at ended
        cases ended
    | _ => cases ended

theorem Standing.inService_iff (standing : control.Standing) :
    control.InService ↔ 0 < control.serving ∧ control.shutdownsOver = 0 := by
  rw [InService, shutdownsOver_eq_zero_iff]
  refine and_congr_left fun _ => ⟨?_, ?_⟩
  · rintro ⟨operation, member, unfailed⟩
    rcases standing.prepared.way operation member with ⟨progress, found, serves | ⟨error, rfl⟩⟩
    · exact serving_pos found serves
    · exact absurd found (unfailed error)
  · intro some
    rcases List.countP_pos_iff.mp some with ⟨progress, member, serves⟩
    rcases List.getElem?_of_mem member with ⟨operation, found⟩
    refine ⟨operation, standing.prepared.done operation progress found serves, ?_⟩
    intro error failed
    cases found.symm.trans failed
    cases serves

theorem Standing.not_inService_of_created (standing : control.Standing)
    (fresh : control.phase = .created) : ¬ control.InService := by
  rw [standing.inService_iff, standing.serving.fresh fresh]
  simp

theorem Standing.inService_of_started (standing : control.Standing)
    (running : control.phase = .started) : control.InService :=
  standing.inService_iff.mpr
    ⟨standing.serving.running running, standing.serving.calm (Or.inr running)⟩

/-- The service begins when a start has prepared the server, and ends when an operation lets go of
it for good. -/
theorem Transition.inService_iff (transition : control.Transition step next)
    (standing : control.Standing) :
    next.InService ↔ ¬ Withdraws step next ∧
      (control.InService ∨ (control.phase = .created ∧ step = .beginStart (.ok ()))) := by
  rw [(transition.standing standing).inService_iff, standing.inService_iff]
  rcases standing.serving with ⟨sound, starts, shutdowns, new, running, calm, late⟩
  cases transition with
  | startLost | startClaimed | startRefused | shutdownLost | shutdownClaimed =>
      grind [Withdraws, Control.serving, shuttingDown, shutdownsOver, count, enlist, record,
        Progress.stage, Progress.mayServe, Progress.isOver]
  | startAcquired free found | shutdownAcquired free found | serverUp _ holds found
  | serverFailed _ holds found | drained holds found | notDrained holds found | killed holds found
  | notKilled holds found =>
      have counted := count_pos found
      grind [Withdraws, Control.serving, shuttingDown, shutdownsOver, count, advance, record,
        Progress.stage, Progress.mayServe, Progress.isOver]

/-! ## What takes a server out of service -/

/-- The server of a shutdown that has claimed its turn has been started. -/
def Guarded (control : Control) : Prop :=
  0 < control.shuttingDown → 0 < control.serving

/-- No shutdown has claimed its turn as long as a start is under way. -/
def Apart (control : Control) : Prop :=
  0 < control.count .startQueued + control.count .starting → control.phase = .started

theorem guarded_new : ({} : Control).Guarded := by
  simp [Guarded, shuttingDown, count]

theorem apart_new : ({} : Control).Apart := by
  simp [Apart, count]

/-- A start that fails before any shutdown has claimed its turn leaves nothing to shut down. -/
theorem Transition.guarded (transition : control.Transition step next)
    (standing : control.Standing) (guarded : control.Guarded)
    (unclaimed : ∀ error, step = .serverStarted (.error error) → control.phase = .started) :
    next.Guarded := by
  rcases standing.serving with ⟨⟨held, begun, shut, fresh, early, patient⟩, starts, shutdowns, new,
    running, calm, late⟩
  rw [Guarded] at *
  cases transition with
  | startLost | startClaimed | startRefused | shutdownLost | shutdownClaimed =>
      grind [Control.serving, shuttingDown, count, enlist, record, Progress.stage,
        Progress.mayServe]
  | serverFailed error holds found =>
      have counted := count_pos found
      have phase := unclaimed error rfl
      grind [Control.serving, shuttingDown, count, advance, Progress.stage, Progress.mayServe]
  | startAcquired free found | shutdownAcquired free found | serverUp _ holds found
  | drained holds found | notDrained holds found | killed holds found | notKilled holds found =>
      have counted := count_pos found
      grind [Control.serving, shuttingDown, count, advance, record, Progress.stage,
        Progress.mayServe]

theorem Transition.apart (transition : control.Transition step next) (sound : control.Sound)
    (apart : control.Apart)
    (alone : ∀ grace, step = .beginShutdown grace → ¬ control.StartUnderWay) : next.Apart := by
  rcases sound with ⟨held, begun, shut, fresh, early, patient⟩
  rw [Apart] at *
  cases transition with
  | startLost | startClaimed | startRefused | shutdownLost =>
      grind [count, enlist, record, Progress.stage]
  | shutdownClaimed grace _ =>
      have none := alone grace rfl
      rw [startUnderWay_iff] at none
      grind [count, enlist, Progress.stage]
  | startAcquired free found | shutdownAcquired free found | serverUp _ holds found
  | serverFailed _ holds found | drained holds found | notDrained holds found | killed holds found
  | notKilled holds found =>
      have counted := count_pos found
      grind [count, advance, record, Progress.stage]

theorem Guarded.inService (guarded : control.Guarded) (standing : control.Standing)
    (shutting : 0 < control.shuttingDown) : control.InService := by
  have shutdowns := standing.serving.shutdowns
  refine standing.inService_iff.mpr ⟨guarded shutting, ?_⟩
  omega

/-- What takes a server out of service finds it in service. -/
theorem Guarded.inService_of_withdraws (guarded : control.Guarded) (standing : control.Standing)
    (unclaimed : ∀ error, step = .serverStarted (.error error) → control.phase = .started)
    (transition : control.Transition step next) (withdraws : Withdraws step next) :
    control.InService := by
  cases transition with
  | serverFailed error held starting =>
      exact standing.inService_of_started (unclaimed error rfl)
  | drained _ found | killed _ found | notKilled _ found =>
      exact guarded.inService standing (shuttingDown_pos found rfl)
  | notDrained held _ =>
      rcases withdraws with ⟨_, same⟩ | ⟨_, free⟩
      · cases same
      · cases held.symm.trans free
  | _ => simp [Withdraws] at withdraws

theorem count_eq_zero_of_ended {stage : Stage}
    (idle : ∀ progress ∈ control.operations, progress.hasEnded = true)
    (underWay : stage ≠ .ended) : control.count stage = 0 := by
  refine List.countP_eq_zero.mpr fun progress member same => underWay ?_
  have ended := idle progress member
  rw [← of_decide_eq_true same]
  cases progress with
  | startEnded | shutdownEnded => rfl
  | _ => cases ended

/-- A server that no operation is at is in service if it is started. -/
theorem Standing.inService_iff_started (standing : control.Standing)
    (idle : ∀ progress ∈ control.operations, progress.hasEnded = true) :
    control.InService ↔ control.phase = .started := by
  refine ⟨fun serves => ?_, standing.inService_of_started⟩
  have done : control.shuttingDown = 0 := by simp [shuttingDown, count_eq_zero_of_ended idle]
  rw [standing.inService_iff] at serves
  by_contra stopped
  have claimed : control.phase ≠ .created := fun fresh => by
    have := standing.serving.fresh fresh
    omega
  have := standing.serving.late claimed stopped
  omega

end Control

end Rendezvous
