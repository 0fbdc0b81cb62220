import Rendezvous.Lifecycle.Control
import Rendezvous.Proofs.Run

/-!
# Transitions of a control

`Control.Transition` lists what each possible step of an operation does, one constructor for each
case of `Control.step?`, and `Control.transition_of_step?` says that the list is complete. How many
operations are at each stage is all that the invariant `Control.Sound` speaks about: one operation
at most talks to the server, and no more than one start and one shutdown are under way.
-/

namespace Rendezvous

/-- The stage of an operation that is under way, or that it has ended. -/
inductive Stage
  | startQueued
  | starting
  | shutdownQueued
  | draining
  | forcing
  | ended
deriving DecidableEq, Repr

/-- The stage of an operation. -/
def Progress.stage : Progress → Stage
  | .startQueued => .startQueued
  | .starting => .starting
  | .startEnded _ => .ended
  | .shutdownQueued _ => .shutdownQueued
  | .draining _ => .draining
  | .forcing _ => .forcing
  | .shutdownEnded _ => .ended

/-- Whether an operation begins. -/
def ControlStep.begins : ControlStep → Bool
  | .beginStart _ => true
  | .beginShutdown _ => true
  | _ => false

/-- Whether an operation is a shutdown that has claimed its turn and has not ended. -/
def Progress.shutsDown : Progress → Bool
  | .shutdownQueued _ => true
  | .draining _ => true
  | .forcing _ => true
  | _ => false

namespace Control

/-- What a step does that is possible. -/
inductive Transition (control : Control) : ControlStep → Control → Prop
  | startLost (prepared : Except SourceError Unit) (late : control.phase ≠ .created) :
      Transition control (.beginStart prepared)
        (control.enlist (.startEnded (.error .alreadyStarted)))
  | startClaimed (fresh : control.phase = .created) :
      Transition control (.beginStart (.ok ()))
        (({ control with phase := .started }.record control.nextOperation
          (.prepared true)).enlist .startQueued)
  | startRefused (error : SourceError) (fresh : control.phase = .created) :
      Transition control (.beginStart (.error error))
        (({ control with phase := .stopped }.record control.nextOperation
          (.prepared false)).enlist (.startEnded (.error error)))
  | shutdownLost (grace : Duration) (idle : control.phase ≠ .started) :
      Transition control (.beginShutdown grace)
        (control.enlist (.shutdownEnded (.ok .notRunning)))
  | shutdownClaimed (grace : Duration) (running : control.phase = .started) :
      Transition control (.beginShutdown grace)
        ({ control with phase := .shuttingDownGraceful }.enlist (.shutdownQueued grace))
  | startAcquired {operation : OperationNumber} (free : control.holder = none)
      (queued : control.operations[operation]? = some .startQueued) :
      Transition control (.acquire operation)
        (({ control with holder := some operation }.advance operation .starting).record operation
          (.called .start))
  | shutdownAcquired {operation : OperationNumber} {grace : Duration}
      (free : control.holder = none)
      (queued : control.operations[operation]? = some (.shutdownQueued grace)) :
      Transition control (.acquire operation)
        ((({ control with holder := some operation }.advance operation
          (.draining grace)).record operation (.called .shutdown)).record operation
            (.called (.awaitTermination grace)))
  | serverUp {operation : OperationNumber} (address : SocketAddress)
      (held : control.holder = some operation)
      (starting : control.operations[operation]? = some .starting) :
      Transition control (.serverStarted (.ok address))
        ({ control with holder := none, address := some address }.advance operation
          (.startEnded (.ok address)))
  | serverFailed {operation : OperationNumber} (error : SourceError)
      (held : control.holder = some operation)
      (starting : control.operations[operation]? = some .starting) :
      Transition control (.serverStarted (.error error))
        ({ control with holder := none, phase := .stopped }.advance operation
          (.startEnded (.error error)))
  | drained {operation : OperationNumber} {grace : Duration}
      (held : control.holder = some operation)
      (draining : control.operations[operation]? = some (.draining grace)) :
      Transition control (.serverAwaited true)
        ({ control with holder := none, phase := .stopped }.advance operation
          (.shutdownEnded (.ok .graceful)))
  | notDrained {operation : OperationNumber} {grace : Duration}
      (held : control.holder = some operation)
      (draining : control.operations[operation]? = some (.draining grace)) :
      Transition control (.serverAwaited false)
        ((({ control with phase := .shuttingDownForced }.advance operation
          (.forcing grace)).record operation (.called .shutdownNow)).record operation
            (.called (.awaitTermination grace)))
  | killed {operation : OperationNumber} {grace : Duration}
      (held : control.holder = some operation)
      (forcing : control.operations[operation]? = some (.forcing grace)) :
      Transition control (.serverAwaited true)
        ({ control with holder := none, phase := .stopped }.advance operation
          (.shutdownEnded (.ok .forced)))
  | notKilled {operation : OperationNumber} {grace : Duration}
      (held : control.holder = some operation)
      (forcing : control.operations[operation]? = some (.forcing grace)) :
      Transition control (.serverAwaited false)
        ({ control with holder := none }.advance operation
          (.shutdownEnded (.error (.shutdownTimedOut grace))))

variable {control next : Control}

theorem transition_beginStart (control : Control) (prepared : Except SourceError Unit) :
    control.Transition (.beginStart prepared) (control.beginStart prepared) := by
  by_cases fresh : control.phase = .created
  · cases prepared with
    | ok _ => simpa [beginStart, Phase.move, fresh] using Transition.startClaimed fresh
    | error error => simpa [beginStart, Phase.move, fresh] using Transition.startRefused error fresh
  · simpa [beginStart, Phase.move, fresh] using Transition.startLost prepared fresh

theorem transition_beginShutdown (control : Control) (grace : Duration) :
    control.Transition (.beginShutdown grace) (control.beginShutdown grace) := by
  by_cases running : control.phase = .started
  · simpa [beginShutdown, Phase.move, running] using Transition.shutdownClaimed grace running
  · simpa [beginShutdown, Phase.move, running] using Transition.shutdownLost grace running

theorem transition_of_acquire? {operation : OperationNumber}
    (acquired : control.acquire? operation = some next) :
    control.Transition (.acquire operation) next := by
  rw [acquire?] at acquired
  split at acquired
  · cases acquired
    exact .startAcquired ‹_› ‹_›
  · cases acquired
    exact .shutdownAcquired ‹_› ‹_›
  · cases acquired

theorem transition_of_serverStarted? {result : StartResult}
    (answered : control.serverStarted? result = some next) :
    control.Transition (.serverStarted result) next := by
  cases held : control.holder with
  | none => simp [serverStarted?, held] at answered
  | some operation =>
      simp only [serverStarted?, held] at answered
      split at answered
      · cases answered
        exact .serverUp _ held ‹_›
      · cases answered
        exact .serverFailed _ held ‹_›
      · cases answered

theorem transition_of_serverAwaited? {terminated : Bool}
    (answered : control.serverAwaited? terminated = some next) :
    control.Transition (.serverAwaited terminated) next := by
  cases held : control.holder with
  | none => simp [serverAwaited?, held] at answered
  | some operation =>
      simp only [serverAwaited?, held] at answered
      split at answered
      · cases answered
        exact .drained held ‹_›
      · cases answered
        simpa only [held] using Transition.notDrained held ‹_›
      · cases answered
        exact .killed held ‹_›
      · cases answered
        exact .notKilled held ‹_›
      · cases answered

/-- Every possible step is one of the transitions. -/
theorem transition_of_step? {step : ControlStep} (stepped : control.step? step = some next) :
    control.Transition step next := by
  cases step with
  | beginStart prepared =>
      cases stepped
      exact transition_beginStart control prepared
  | beginShutdown grace =>
      cases stepped
      exact transition_beginShutdown control grace
  | acquire operation => exact transition_of_acquire? stepped
  | serverStarted result => exact transition_of_serverStarted? stepped
  | serverAwaited terminated => exact transition_of_serverAwaited? stepped

/-! ## How far each operation has come -/

theorem getElem?_concat_eq_some {α : Type} {list : List α} {last found : α} {index : Nat} :
    (list ++ [last])[index]? = some found ↔
      list[index]? = some found ∨ (index = list.length ∧ found = last) := by
  rcases Nat.lt_trichotomy index list.length with earlier | rfl | later
  · rw [List.getElem?_append_left earlier]
    simp [Nat.ne_of_lt earlier]
  · simp [eq_comm]
  · have beyond : (list ++ [last]).length ≤ index := by
      rw [List.length_append]
      exact later
    rw [List.getElem?_eq_none beyond, List.getElem?_eq_none (Nat.le_of_lt later)]
    simp [Nat.ne_of_gt later]

theorem getElem?_set_eq_some {α : Type} {list : List α} {value found : α} {index other : Nat} :
    (list.set index value)[other]? = some found ↔
      (other ≠ index ∧ list[other]? = some found) ∨
        (other = index ∧ other < list.length ∧ found = value) := by
  by_cases same : other = index
  · subst same
    by_cases within : other < list.length <;> simp [within, eq_comm]
  · rw [List.getElem?_set_ne fun equal => same equal.symm]
    simp [same]

/-- Who is enlisted comes last, and nobody else changes. -/
theorem getElem?_enlist {operation : OperationNumber} {progress found : Progress} :
    (control.enlist progress).operations[operation]? = some found ↔
      control.operations[operation]? = some found ∨
        (operation = control.operations.length ∧ found = progress) :=
  getElem?_concat_eq_some

/-- Nobody changes but the one who comes further. -/
theorem getElem?_advance {operation other : OperationNumber} {progress found : Progress} :
    (control.advance operation progress).operations[other]? = some found ↔
      (other ≠ operation ∧ control.operations[other]? = some found) ∨
        (other = operation ∧ other < control.operations.length ∧ found = progress) :=
  getElem?_set_eq_some

/-- An operation that has ended stays as it is. -/
theorem Transition.ended {step : ControlStep} {operation : OperationNumber} {progress : Progress}
    (transition : control.Transition step next)
    (found : control.operations[operation]? = some progress) (ended : progress.hasEnded = true) :
    next.operations[operation]? = some progress := by
  cases transition with
  | startLost | startClaimed | startRefused | shutdownLost | shutdownClaimed =>
      exact getElem?_enlist.mpr (Or.inl found)
  | startAcquired _ underWay | shutdownAcquired _ underWay | serverUp _ _ underWay
  | serverFailed _ _ underWay | drained _ underWay | notDrained _ underWay | killed _ underWay
  | notKilled _ underWay =>
      refine getElem?_advance.mpr (Or.inl ⟨?_, found⟩)
      rintro rfl
      cases found.symm.trans underWay
      cases ended

/-! ## How many operations are at each stage -/

/-- The number of operations at a stage. -/
def count (control : Control) (stage : Stage) : Nat :=
  control.operations.countP fun progress => decide (progress.stage = stage)

theorem count_pos {operation : OperationNumber} {progress : Progress}
    (found : control.operations[operation]? = some progress) :
    0 < control.count progress.stage :=
  List.countP_pos_iff.mpr ⟨progress, List.mem_of_getElem? found, decide_eq_true rfl⟩

/-- What holds of a control at any time. -/
structure Sound (control : Control) : Prop where
  /-- Whoever talks to the server holds it, and whoever holds it talks to it. -/
  held : control.count .starting + control.count .draining + control.count .forcing =
    if control.holder.isSome then 1 else 0
  /-- One start at most is under way. -/
  starts : control.count .startQueued + control.count .starting ≤ 1
  /-- One shutdown at most is under way. -/
  shutdowns : control.count .shutdownQueued + control.count .draining + control.count .forcing ≤ 1
  /-- Nobody has claimed a start before the first phase has passed. -/
  fresh : control.phase = .created → control.count .startQueued + control.count .starting = 0
  /-- Nobody has claimed a shutdown before the second phase has passed. -/
  early : control.phase = .created ∨ control.phase = .started →
    control.count .shutdownQueued + control.count .draining + control.count .forcing = 0
  /-- A shutdown that has not lost its patience has made the lifecycle shut down, unless a failed
  start has ended it. -/
  patient : 0 < control.count .shutdownQueued + control.count .draining →
    control.phase = .shuttingDownGraceful ∨ control.phase = .stopped

theorem sound_new : ({} : Control).Sound := by
  refine ⟨rfl, ?_, ?_, ?_, ?_, ?_⟩ <;> simp [count]

/-- A transition takes one operation from one stage to the next, and the phase along with it. -/
theorem Transition.sound {step : ControlStep} (transition : control.Transition step next)
    (sound : control.Sound) : next.Sound := by
  rcases sound with ⟨held, starts, shutdowns, fresh, early, patient⟩
  cases transition with
  | startLost | startClaimed | startRefused | shutdownLost | shutdownClaimed =>
      refine ⟨?_, ?_, ?_, ?_, ?_, ?_⟩ <;> grind [count, enlist, record, Progress.stage]
  | startAcquired free found | shutdownAcquired free found | serverUp _ holds found
  | serverFailed _ holds found | drained holds found | notDrained holds found | killed holds found
  | notKilled holds found =>
      -- The operation that comes further is counted at the stage that it leaves.
      have counted := count_pos found
      refine ⟨?_, ?_, ?_, ?_, ?_, ?_⟩ <;> grind [count, advance, record, Progress.stage]

/-- Once the start has been claimed and is over, no start is under way any more. -/
theorem Transition.past {step : ControlStep} (transition : control.Transition step next)
    (claimed : control.phase ≠ .created)
    (none : control.count .startQueued + control.count .starting = 0) :
    next.phase ≠ .created ∧ next.count .startQueued + next.count .starting = 0 := by
  cases transition with
  | startLost | startClaimed | startRefused | shutdownLost | shutdownClaimed =>
      grind [count, enlist, record, Progress.stage]
  | _ => grind [count, advance, record, Progress.stage]

/-! ## Runs -/

theorem run?_append (control : Control) (earlier later : List ControlStep) :
    control.run? (earlier ++ later) = (control.run? earlier).bind (·.run? later) := by
  induction earlier generalizing control with
  | nil => rfl
  | cons step rest ih =>
      rw [List.cons_append, run?, run?]
      cases control.step? step with
      | none => rfl
      | some next => exact ih next

theorem step_of_run? {step : ControlStep} {rest : List ControlStep} {final : Control}
    (ran : control.run? (step :: rest) = some final) :
    ∃ next, control.step? step = some next ∧ next.run? rest = some final := by
  rw [run?] at ran
  cases stepped : control.step? step with
  | none => simp [stepped] at ran
  | some next => exact ⟨next, rfl, by simpa [stepped] using ran⟩

theorem run?_eq_foldlM (control : Control) (steps : List ControlStep) :
    control.run? steps = steps.foldlM step? control := by
  induction steps generalizing control with
  | nil => rfl
  | cons step rest ih =>
      rw [run?, List.foldlM_cons]
      cases control.step? step with
      | none => rfl
      | some next => exact ih next

theorem sound_of_run? (sound : control.Sound) {steps : List ControlStep} {final : Control}
    (ran : control.run? steps = some final) : final.Sound := by
  induction steps generalizing control with
  | nil =>
      cases ran
      exact sound
  | cons step rest ih =>
      rcases step_of_run? ran with ⟨next, stepped, later⟩
      exact ih ((transition_of_step? stepped).sound sound) later

end Control

end Rendezvous
