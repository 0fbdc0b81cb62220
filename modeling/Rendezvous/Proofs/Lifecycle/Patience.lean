import Rendezvous.Deadline
import Rendezvous.Proofs.Lifecycle.Service

/-!
# How long a shutdown takes

A timed control is a control with a clock. Whoever queues for a free server gets hold of it before
any time passes, and a server that is asked to end answers in the time that it is given; how long it
takes to come up is not bounded. A shutdown that has got hold of the server is over after twice its
grace period at most. The time for which it waits for a start to let go of the server comes on top,
so that twice the grace period bounds the whole shutdown only if it finds no start under way.
-/

namespace Rendezvous

/-- A control with a clock. -/
structure TimedControl where
  control : Control := {}
  now : Instant := 0
  /-- The steps by which the operations have begun, in the order of their numbers, with the times at
  which they did. -/
  calls : List (Instant × ControlStep) := []
  /-- The time at which an operation got hold of the server or the server answered a shutdown. -/
  asked : Instant := 0
  /-- The time at which a start let go of the server. -/
  released : Instant := 0

/-- A step of an operation, or the passing of time. -/
inductive TimedStep
  | act (step : ControlStep)
  | wait (time : Duration)

/-- How long an operation waits for the server to end. -/
def Progress.patience? : Progress → Option Duration
  | .draining grace => some grace
  | .forcing grace => some grace
  | _ => none

/-- Whether an operation talks to the server. -/
def Progress.talks : Progress → Bool
  | .starting => true
  | .draining _ => true
  | .forcing _ => true
  | _ => false

namespace Control

/-- Whoever talks to the server holds it, and whoever holds it talks to it. -/
def Held (control : Control) : Prop :=
  ∀ operation, control.holder = some operation ↔
    ∃ progress, control.operations[operation]? = some progress ∧ progress.talks = true

/-- No start waits for the server to come up. -/
def NoneStarting (control : Control) : Prop :=
  ∀ operation : OperationNumber, control.operations[operation]? ≠ some .starting

end Control

namespace TimedControl

/-- The control after a step, and what the clock showed when it was taken. -/
def record (timed : TimedControl) (next : Control) : ControlStep → TimedControl
  | .beginStart prepared =>
      { timed with control := next, calls := timed.calls ++ [(timed.now, .beginStart prepared)] }
  | .beginShutdown grace =>
      { timed with control := next, calls := timed.calls ++ [(timed.now, .beginShutdown grace)] }
  | .acquire _ => { timed with control := next, asked := timed.now }
  | .serverStarted _ => { timed with control := next, released := timed.now }
  | .serverAwaited _ => { timed with control := next, asked := timed.now }

/-- Whether a time may pass: no operation waits for a server that is free, and no shutdown waits for
the end of the server longer than it has asked to. -/
def mayWait (timed : TimedControl) (time : Duration) : Bool :=
  (timed.control.holder.isSome || !timed.control.operations.any Progress.isQueued) &&
    timed.control.operations.all fun progress =>
      progress.patience?.all fun grace =>
        decide (timed.now + time.nanoseconds ≤ timed.asked + grace.nanoseconds)

/-- What a step does, if it is possible. -/
def step? (timed : TimedControl) : TimedStep → Option TimedControl
  | .act step => (timed.control.step? step).map fun next => timed.record next step
  | .wait time =>
      if timed.mayWait time then some { timed with now := timed.now + time.nanoseconds } else none

/-- A shutdown that began at a time with a grace period is at a stage that it has reached in
time. -/
def Timely (timed : TimedControl) (began : Instant) (grace : Duration) : Progress → Prop
  | .shutdownQueued limit =>
      limit = grace ∧ (timed.control.NoneStarting → timed.now ≤ max began timed.released)
  | .draining limit =>
      limit = grace ∧ timed.asked ≤ max began timed.released ∧
        timed.now ≤ timed.asked + grace.nanoseconds
  | .forcing limit =>
      limit = grace ∧ timed.asked ≤ max began timed.released + grace.nanoseconds ∧
        timed.now ≤ timed.asked + grace.nanoseconds
  | .shutdownEnded _ => True
  | _ => False

/-- What holds of a timed control at any time. -/
structure Patient (timed : TimedControl) : Prop where
  sound : timed.control.Sound
  held : timed.control.Held
  length : timed.calls.length = timed.control.operations.length
  past : timed.released ≤ timed.now
  timely : ∀ (operation : OperationNumber) (began : Instant) (grace : Duration),
    timed.calls[operation]? = some (began, .beginShutdown grace) →
      ∃ progress, timed.control.operations[operation]? = some progress ∧
        timed.Timely began grace progress

end TimedControl

/-! ## Who holds the server -/

namespace Control

variable {control next : Control} {step : ControlStep}

theorem held_new : ({} : Control).Held := by
  intro operation
  simp

theorem Held.enlist {progress : Progress} (held : control.Held)
    (listed : next.operations = control.operations ++ [progress])
    (same : next.holder = control.holder) (idle : progress.talks = false) : next.Held := by
  intro operation
  rw [same, held operation, listed]
  constructor
  · rintro ⟨other, found, talks⟩
    exact ⟨other, getElem?_concat_eq_some.mpr (Or.inl found), talks⟩
  · rintro ⟨other, found, talks⟩
    rcases getElem?_concat_eq_some.mp found with before | ⟨_, rfl⟩
    · exact ⟨other, before, talks⟩
    · cases idle.symm.trans talks

theorem Held.advance {operation : OperationNumber} {old progress : Progress} (held : control.Held)
    (listed : next.operations = control.operations.set operation progress)
    (found : control.operations[operation]? = some old)
    (alone : control.holder = none ∨ control.holder = some operation)
    (holder : next.holder = if progress.talks then some operation else none) : next.Held := by
  have within := (List.getElem?_eq_some_iff.mp found).1
  intro other
  rw [listed]
  constructor
  · intro holds
    by_cases talks : progress.talks = true
    · rw [holder, if_pos talks] at holds
      cases holds
      exact ⟨progress, getElem?_set_eq_some.mpr (Or.inr ⟨rfl, within, rfl⟩), talks⟩
    · rw [holder, if_neg talks] at holds
      cases holds
  · rintro ⟨another, present, talks⟩
    rcases getElem?_set_eq_some.mp present with ⟨differs, before⟩ | ⟨rfl, _, rfl⟩
    · have holds := (held other).mpr ⟨another, before, talks⟩
      rcases alone with free | mine
      · cases free.symm.trans holds
      · cases mine.symm.trans holds
        exact absurd rfl differs
    · rw [holder, if_pos talks]

theorem Transition.held (transition : control.Transition step next) (held : control.Held) :
    next.Held := by
  cases transition with
  | startLost | startClaimed | startRefused | shutdownLost | shutdownClaimed =>
      exact held.enlist rfl rfl rfl
  | startAcquired free found | shutdownAcquired free found =>
      exact held.advance rfl found (Or.inl free) rfl
  | serverUp _ holds found | serverFailed _ holds found | drained holds found
  | killed holds found | notKilled holds found =>
      exact held.advance rfl found (Or.inr holds) rfl
  | notDrained holds found => exact held.advance rfl found (Or.inr holds) holds

end Control

namespace TimedControl

variable {timed next final : TimedControl} {step : ControlStep} {steps : List TimedStep}
  {began : Instant} {grace : Duration} {progress : Progress}

theorem patient_new : ({} : TimedControl).Patient where
  sound := Control.sound_new
  held := Control.held_new
  length := rfl
  past := Nat.le_refl 0
  timely _ _ _ found := by simp at found

/-! ## The passing of time -/

/-- If time may pass, a shutdown that waits for the server waits for a start. -/
theorem Patient.not_noneStarting_of_wait {operation : OperationNumber} {time : Duration}
    (patient : timed.Patient) (may : timed.mayWait time = true)
    (queued : timed.control.operations[operation]? = some (.shutdownQueued grace)) :
    ¬ timed.control.NoneStarting := by
  intro none
  have waits := Control.count_pos queued
  have shutdowns := patient.sound.shutdowns
  simp only [mayWait, Bool.and_eq_true, Bool.or_eq_true] at may
  rcases may.1 with busy | idle
  · rcases Option.isSome_iff_exists.mp busy with ⟨holder, holds⟩
    rcases (patient.held holder).mp holds with ⟨progress, found, talks⟩
    have counted := Control.count_pos found
    cases progress with
    | starting => exact none holder found
    | draining | forcing =>
        simp only [Progress.stage] at counted waits
        omega
    | _ => cases talks
  · simp only [Bool.not_eq_true', List.any_eq_false] at idle
    exact absurd rfl (idle _ (List.mem_of_getElem? queued))

theorem Patient.wait {time : Duration} (patient : timed.Patient) (may : timed.mayWait time = true) :
    ({ timed with now := timed.now + time.nanoseconds } : TimedControl).Patient := by
  refine ⟨patient.sound, patient.held, patient.length, Nat.le_add_right_of_le patient.past, ?_⟩
  intro operation began grace called
  rcases patient.timely operation began grace called with ⟨progress, found, timely⟩
  refine ⟨progress, found, ?_⟩
  cases progress with
  | shutdownQueued period =>
      exact ⟨timely.1, fun idle => absurd idle (patient.not_noneStarting_of_wait may found)⟩
  | draining period | forcing period =>
      simp only [mayWait, Bool.and_eq_true, List.all_eq_true] at may
      have limit := may.2 _ (List.mem_of_getElem? found)
      rcases timely with ⟨rfl, soon, _⟩
      exact ⟨rfl, soon, of_decide_eq_true limit⟩
  | shutdownEnded result => exact True.intro
  | _ => exact timely

/-! ## The steps of the operations -/

/-- A shutdown stays in time as long as nobody else comes further, or another one that talks to the
server while it does not. -/
theorem Timely.mono (timely : timed.Timely began grace progress) (now : next.now = timed.now)
    (released : timed.released ≤ next.released)
    (starts : next.control.NoneStarting →
      timed.control.NoneStarting ∨ next.now ≤ next.released)
    (asked : progress.talks = true → next.asked = timed.asked) :
    next.Timely began grace progress := by
  have later : max began timed.released ≤ max began next.released :=
    Nat.max_le.mpr ⟨Nat.le_max_left _ _, Nat.le_trans released (Nat.le_max_right _ _)⟩
  cases progress with
  | shutdownQueued limit =>
      rcases timely with ⟨same, soon⟩
      refine ⟨same, fun idle => ?_⟩
      rcases starts idle with before | back
      · rw [now]
        exact Nat.le_trans (soon before) later
      · exact Nat.le_trans back (Nat.le_max_right _ _)
  | draining limit =>
      rcases timely with ⟨same, soon, within⟩
      rw [← asked rfl, ← now] at within
      rw [← asked rfl] at soon
      exact ⟨same, Nat.le_trans soon later, within⟩
  | forcing limit =>
      rcases timely with ⟨same, soon, within⟩
      rw [← asked rfl, ← now] at within
      rw [← asked rfl] at soon
      exact ⟨same, Nat.le_trans soon (Nat.add_le_add_right later _), within⟩
  | shutdownEnded result => exact True.intro
  | _ => exact timely

theorem noneStarting_of_set {control after : Control} {operation : OperationNumber}
    {old : Progress} (listed : after.operations = control.operations.set operation progress)
    (found : control.operations[operation]? = some old) (other : old ≠ .starting)
    (none : after.NoneStarting) : control.NoneStarting := by
  intro another starting
  by_cases same : another = operation
  · subst same
    cases found.symm.trans starting
    exact other rfl
  · refine none another ?_
    rw [listed]
    exact Control.getElem?_set_eq_some.mpr (Or.inl ⟨same, starting⟩)

theorem Patient.enlist (patient : timed.Patient) (sound : next.control.Sound)
    (held : next.control.Held)
    (listed : next.control.operations = timed.control.operations ++ [progress])
    (calls : next.calls = timed.calls ++ [(timed.now, step)]) (now : next.now = timed.now)
    (asked : next.asked = timed.asked) (released : next.released = timed.released)
    (ends : ∀ grace, step = .beginShutdown grace → next.Timely timed.now grace progress) :
    next.Patient := by
  refine ⟨sound, held, ?_, by rw [released, now]; exact patient.past, ?_⟩
  · rw [calls, listed, List.length_append, List.length_append, patient.length]
    rfl
  intro operation began grace called
  rw [calls] at called
  rcases Control.getElem?_concat_eq_some.mp called with before | ⟨newest, same⟩
  · rcases patient.timely operation began grace before with ⟨other, found, timely⟩
    refine ⟨other, listed ▸ Control.getElem?_concat_eq_some.mpr (Or.inl found), ?_⟩
    refine timely.mono now (Nat.le_of_eq released.symm) (fun none => Or.inl ?_) fun _ => asked
    intro another starting
    refine none another ?_
    rw [listed]
    exact Control.getElem?_concat_eq_some.mpr (Or.inl starting)
  · cases same
    refine ⟨progress, ?_, ends grace rfl⟩
    rw [listed]
    exact Control.getElem?_concat_eq_some.mpr (Or.inr ⟨newest.trans patient.length, rfl⟩)

/-- An operation comes further that holds the server, or gets hold of it. -/
theorem Patient.advance {operation : OperationNumber} {old : Progress} (patient : timed.Patient)
    (sound : next.control.Sound) (held : next.control.Held)
    (listed : next.control.operations = timed.control.operations.set operation progress)
    (found : timed.control.operations[operation]? = some old)
    (alone : timed.control.holder = none ∨ timed.control.holder = some operation)
    (calls : next.calls = timed.calls) (now : next.now = timed.now)
    (released : timed.released ≤ next.released) (past : next.released ≤ next.now)
    (starts : next.control.NoneStarting →
      timed.control.NoneStarting ∨ next.now ≤ next.released)
    (mine : ∀ began grace, timed.Timely began grace old → next.Timely began grace progress) :
    next.Patient := by
  refine ⟨sound, held, ?_, past, ?_⟩
  · rw [calls, listed, List.length_set, patient.length]
  intro other began grace called
  rw [calls] at called
  rcases patient.timely other began grace called with ⟨another, present, timely⟩
  by_cases same : other = operation
  · subst same
    cases found.symm.trans present
    have within := (List.getElem?_eq_some_iff.mp found).1
    refine ⟨progress, ?_, mine began grace timely⟩
    rw [listed]
    exact Control.getElem?_set_eq_some.mpr (Or.inr ⟨rfl, within, rfl⟩)
  · refine ⟨another, ?_, timely.mono now released starts fun talks => ?_⟩
    · rw [listed]
      exact Control.getElem?_set_eq_some.mpr (Or.inl ⟨same, present⟩)
    · have holds := (patient.held other).mpr ⟨another, present, talks⟩
      rcases alone with free | own
      · cases free.symm.trans holds
      · cases own.symm.trans holds
        exact absurd rfl same

theorem Patient.act {control : Control} (patient : timed.Patient)
    (transition : timed.control.Transition step control) : (timed.record control step).Patient := by
  have sound := transition.sound patient.sound
  have held := transition.held patient.held
  cases transition with
  | startLost prepared late | startRefused error fresh =>
      exact patient.enlist sound held rfl rfl rfl rfl rfl nofun
  | startClaimed fresh => exact patient.enlist sound held rfl rfl rfl rfl rfl nofun
  | shutdownLost grace idle =>
      exact patient.enlist sound held rfl rfl rfl rfl rfl fun _ _ => True.intro
  | shutdownClaimed grace running =>
      refine patient.enlist sound held rfl rfl rfl rfl rfl fun _ same => ?_
      cases same
      exact ⟨rfl, fun _ => Nat.le_max_left _ _⟩
  | startAcquired free found =>
      exact patient.advance sound held rfl found (Or.inl free) rfl rfl (Nat.le_refl _)
        patient.past (fun none => Or.inl (noneStarting_of_set rfl found nofun none)) nofun
  | shutdownAcquired free found =>
      refine patient.advance sound held rfl found (Or.inl free) rfl rfl (Nat.le_refl _)
        patient.past (fun none => Or.inl (noneStarting_of_set rfl found nofun none)) ?_
      rintro began grace ⟨same, soon⟩
      refine ⟨same, soon fun other starting => ?_, Nat.le_add_right _ _⟩
      cases free.symm.trans ((patient.held other).mpr ⟨_, starting, rfl⟩)
  | serverUp address holds found | serverFailed error holds found =>
      exact patient.advance sound held rfl found (Or.inr holds) rfl rfl patient.past (Nat.le_refl _)
        (fun _ => Or.inr (Nat.le_refl _)) nofun
  | drained holds found | killed holds found | notKilled holds found =>
      exact patient.advance sound held rfl found (Or.inr holds) rfl rfl (Nat.le_refl _)
        patient.past (fun none => Or.inl (noneStarting_of_set rfl found nofun none)) fun _ _ _ => True.intro
  | notDrained holds found =>
      refine patient.advance sound held rfl found (Or.inr holds) rfl rfl (Nat.le_refl _)
        patient.past (fun none => Or.inl (noneStarting_of_set rfl found nofun none)) ?_
      rintro began grace ⟨same, soon, within⟩
      exact ⟨same, Nat.le_trans within (Nat.add_le_add_right soon _), Nat.le_add_right _ _⟩

/-! ## Runs -/

@[simp]
theorem control_record (timed : TimedControl) (control : Control) (step : ControlStep) :
    (timed.record control step).control = control := by
  cases step <;> rfl

/-- The timed control that a sequence of steps leads to. -/
def run? (timed : TimedControl) (steps : List TimedStep) : Option TimedControl :=
  steps.foldlM step? timed

theorem step_cases {step : TimedStep} (stepped : timed.step? step = some next) :
    (∃ taken control, step = .act taken ∧ timed.control.Transition taken control ∧
      next = timed.record control taken) ∨
    (∃ time : Duration, step = .wait time ∧ timed.mayWait time = true ∧
      next = { timed with now := timed.now + time.nanoseconds }) := by
  cases step with
  | act step =>
      rcases Option.map_eq_some_iff.mp stepped with ⟨control, moved, rfl⟩
      exact Or.inl ⟨step, control, rfl, Control.transition_of_step? moved, rfl⟩
  | wait time =>
      by_cases may : timed.mayWait time = true
      · simp only [step?, may, if_true] at stepped
        cases stepped
        exact Or.inr ⟨time, rfl, may, rfl⟩
      · simp [step?, may] at stepped

theorem Patient.after_step {step : TimedStep} (patient : timed.Patient)
    (stepped : timed.step? step = some next) : next.Patient := by
  rcases step_cases stepped with ⟨_, control, _, transition, rfl⟩ | ⟨time, same, may, rfl⟩
  · exact patient.act transition
  · exact patient.wait may

theorem patient_of_run (ran : run? {} steps = some final) : final.Patient :=
  run_induction (motive := fun _ => Patient) patient_new
    (fun _ _ _ _ _ patient stepped => patient.after_step stepped) ran

/-- A shutdown that has not ended waits for a start, or has not waited too long. -/
theorem Patient.ends_in_time {operation : OperationNumber} (patient : timed.Patient)
    (called : timed.calls[operation]? = some (began, .beginShutdown grace)) :
    (∃ result, timed.control.operations[operation]? = some (.shutdownEnded result)) ∨
      ¬ timed.control.NoneStarting ∨
        timed.now ≤ max began timed.released + 2 * grace.nanoseconds := by
  rcases patient.timely operation began grace called with ⟨progress, found, timely⟩
  cases progress with
  | shutdownQueued limit =>
      refine Or.inr ((Classical.em timed.control.NoneStarting).symm.imp id fun none => ?_)
      exact Nat.le_trans (timely.2 none) (Nat.le_add_right _ _)
  | draining limit =>
      rcases timely with ⟨_, soon, within⟩
      refine Or.inr (Or.inr (Nat.le_trans within ?_))
      rw [Nat.two_mul, ← Nat.add_assoc]
      exact Nat.le_trans (Nat.add_le_add_right soon _) (Nat.le_add_right _ _)
  | forcing limit =>
      rcases timely with ⟨_, soon, within⟩
      refine Or.inr (Or.inr (Nat.le_trans within ?_))
      rw [Nat.two_mul, ← Nat.add_assoc]
      exact Nat.add_le_add_right soon _
  | shutdownEnded result => exact Or.inl ⟨result, found⟩
  | _ => cases timely

theorem Patient.answers {holder : OperationNumber} (patient : timed.Patient)
    (holds : timed.control.holder = some holder) :
    ∃ step, step.begins = false ∧ (timed.control.step? step).isSome = true := by
  rcases (patient.held holder).mp holds with ⟨progress, found, talks⟩
  cases progress with
  | starting =>
      refine ⟨.serverStarted (.error .alreadyStarted), rfl, ?_⟩
      simp [Control.step?, Control.serverStarted?, holds, found]
  | draining limit | forcing limit =>
      refine ⟨.serverAwaited true, rfl, ?_⟩
      simp [Control.step?, Control.serverAwaited?, holds, found]
  | _ => cases talks

theorem Patient.goes_on {operation : OperationNumber} (patient : timed.Patient)
    (called : timed.calls[operation]? = some (began, .beginShutdown grace)) :
    (∃ result, timed.control.operations[operation]? = some (.shutdownEnded result)) ∨
      ∃ step, step.begins = false ∧ (timed.control.step? step).isSome = true := by
  rcases patient.timely operation began grace called with ⟨progress, found, timely⟩
  cases holder : timed.control.holder with
  | some other => exact Or.inr (patient.answers holder)
  | none =>
      cases progress with
      | shutdownQueued limit =>
          refine Or.inr ⟨.acquire operation, rfl, ?_⟩
          simp [Control.step?, Control.acquire?, holder, found]
      | draining limit | forcing limit =>
          cases holder.symm.trans ((patient.held operation).mpr ⟨_, found, rfl⟩)
      | shutdownEnded result => exact Or.inl ⟨result, found⟩
      | _ => cases timely

/-! ## A shutdown that finds no start under way -/

/-- No start can keep a shutdown waiting that began at a time. -/
structure Unhindered (operation : OperationNumber) (began : Instant) (grace : Duration)
    (timed : TimedControl) : Prop where
  called : timed.calls[operation]? = some (began, .beginShutdown grace)
  claimed : timed.control.phase ≠ .created
  none : timed.control.count .startQueued + timed.control.count .starting = 0
  released : timed.released ≤ began

theorem Unhindered.act {operation : OperationNumber} {control : Control}
    (free : Unhindered operation began grace timed)
    (transition : timed.control.Transition step control) :
    Unhindered operation began grace (timed.record control step) := by
  rcases transition.past free.claimed free.none with ⟨claimed, none⟩
  cases transition with
  | startLost | startClaimed | startRefused | shutdownLost | shutdownClaimed =>
      exact ⟨Control.getElem?_concat_eq_some.mpr (Or.inl free.called), claimed, none,
        free.released⟩
  | serverUp _ _ starting | serverFailed _ _ starting =>
      have counted := Control.count_pos starting
      have nobody := free.none
      simp only [Progress.stage] at counted
      omega
  | _ => exact ⟨free.called, claimed, none, free.released⟩

theorem Unhindered.after_step {operation : OperationNumber} {step : TimedStep}
    (free : Unhindered operation began grace timed) (stepped : timed.step? step = some next) :
    Unhindered operation began grace next := by
  rcases step_cases stepped with ⟨_, control, _, transition, rfl⟩ | ⟨time, same, may, rfl⟩
  · exact free.act transition
  · exact ⟨free.called, free.claimed, free.none, free.released⟩

theorem ended_after_step {operation : OperationNumber} {step : TimedStep}
    (found : timed.control.operations[operation]? = some progress)
    (ended : progress.hasEnded = true) (stepped : timed.step? step = some next) :
    next.control.operations[operation]? = some progress := by
  rcases step_cases stepped with ⟨_, control, _, transition, rfl⟩ | ⟨time, same, may, rfl⟩
  · rw [control_record]
    exact transition.ended found ended
  · exact found

theorem unhindered_of_claim {control : Control} (patient : timed.Patient)
    (running : timed.control.phase = .started) (alone : ¬ timed.control.StartUnderWay)
    (transition : timed.control.Transition (.beginShutdown grace) control) :
    Unhindered timed.control.nextOperation timed.now grace
      (timed.record control (.beginShutdown grace)) := by
  rw [Control.startUnderWay_iff, Nat.not_lt, Nat.le_zero] at alone
  have started : timed.control.phase ≠ .created := by
    rw [running]
    exact nofun
  rcases transition.past started alone with ⟨claimed, none⟩
  refine ⟨?_, claimed, none, patient.past⟩
  exact Control.getElem?_concat_eq_some.mpr (Or.inr ⟨patient.length.symm, rfl⟩)

theorem ended_of_late {before after : TimedControl} (ran : run? {} steps = some final)
    (taken : TakesStep step? {} steps before (.act (.beginShutdown grace)) after)
    (alone : ¬ before.control.StartUnderWay)
    (late : before.now + 2 * grace.nanoseconds < final.now) :
    ∃ result, final.control.operations[before.control.nextOperation]? =
      some (.shutdownEnded result) := by
  rcases taken.rest ran with ⟨later, rest⟩
  have patient : before.Patient := by
    rcases taken with ⟨earlier, _, _, reached, _⟩
    exact patient_of_run reached
  rcases step_cases taken.stepped with ⟨_, control, same, transition, rfl⟩ | ⟨time, same, may, rfl⟩
  · cases same
    by_cases running : before.control.phase = .started
    · have free := run_induction
        (motive := fun _ => Unhindered before.control.nextOperation before.now grace)
        (unhindered_of_claim patient running alone transition)
        (fun _ _ _ _ _ free stepped => free.after_step stepped) rest
      rcases (patient_of_run ran).ends_in_time free.called with ended | starts | soon
      · exact ended
      · refine absurd (fun starter found => ?_) starts
        have counted := Control.count_pos found
        have nobody := free.none
        simp only [Progress.stage] at counted
        omega
      · rw [Nat.max_eq_left free.released] at soon
        exact absurd late (Nat.not_lt.mpr soon)
    · have lost : control.operations[before.control.nextOperation]? =
          some (.shutdownEnded (.ok .notRunning)) := by
        cases transition with
        | shutdownLost => exact Control.getElem?_enlist.mpr (Or.inr ⟨rfl, rfl⟩)
        | shutdownClaimed _ started => exact absurd started running
      exact ⟨_, run_induction
        (motive := fun _ timed => timed.control.operations[before.control.nextOperation]? =
          some (.shutdownEnded (.ok .notRunning))) lost
        (fun _ _ _ _ _ found stepped => ended_after_step found rfl stepped) rest⟩
  · cases same

/-- Every shutdown that has not ended goes on. It waits for a start, or twice its grace period has
not passed since it began or the start let go of the server, whichever came later. If it found no
start under way, it ends within twice its grace period. -/
theorem shutdown_ends_in_time (ran : run? {} steps = some final) :
    (∀ (operation : OperationNumber) (began : Instant) (grace : Duration),
      final.calls[operation]? = some (began, .beginShutdown grace) →
        (∃ result, final.control.operations[operation]? = some (.shutdownEnded result)) ∨
          (∃ step, step.begins = false ∧ (final.control.step? step).isSome = true) ∧
            (¬ final.control.NoneStarting ∨
              final.now ≤ max began final.released + 2 * grace.nanoseconds)) ∧
    (∀ before grace after,
      TakesStep step? {} steps before (.act (.beginShutdown grace)) after →
        ¬ before.control.StartUnderWay → before.now + 2 * grace.nanoseconds < final.now →
          ∃ result, final.control.operations[before.control.nextOperation]? =
            some (.shutdownEnded result)) := by
  have patient := patient_of_run ran
  refine ⟨fun operation began grace called => ?_, fun before grace after taken alone late =>
    ended_of_late ran taken alone late⟩
  rcases patient.ends_in_time called with ended | soon
  · exact Or.inl ended
  · exact (patient.goes_on called).imp id fun goes => ⟨goes, soon⟩

/-- A shutdown that has to force the server and takes all of its time. -/
theorem shutdown_ends_in_time_of_forced_end :
    let steps : List TimedStep :=
      [.act (.beginStart (.ok ())), .act (.acquire 0),
        .act (.serverStarted (.ok ⟨.v4 127 0 0 1, 8080⟩)), .act (.beginShutdown ⟨50⟩),
        .act (.acquire 1), .wait ⟨50⟩, .act (.serverAwaited false), .wait ⟨50⟩,
        .act (.serverAwaited true), .wait ⟨1⟩]
    ∃ final, run? {} steps = some final ∧ final.now = 101 ∧
      ∃ result, final.control.operations[1]? = some (.shutdownEnded result) := by
  intro steps
  have ran : ∃ final, run? {} steps = some final ∧ final.now = 101 := ⟨_, rfl, rfl⟩
  have taken : ∃ before after,
      TakesStep step? {} steps before (.act (.beginShutdown ⟨50⟩)) after ∧ before.now = 0 ∧
        before.control.nextOperation = 1 ∧
          before.control.count .startQueued + before.control.count .starting = 0 :=
    ⟨_, _, ⟨steps.take 3, steps.drop 4, rfl, rfl, rfl⟩, rfl, rfl, rfl⟩
  rcases ran with ⟨final, ran, now⟩
  rcases taken with ⟨before, after, taken, began, number, none⟩
  have alone : ¬ before.control.StartUnderWay := by
    rw [Control.startUnderWay_iff, none]
    exact Nat.lt_irrefl 0
  have ended := (shutdown_ends_in_time ran).2 before ⟨50⟩ after taken alone
    (by rw [began, now]; decide)
  rw [number] at ended
  exact ⟨final, ran, now, ended⟩

/-- A shutdown waits for a start for longer than twice its grace period. -/
theorem shutdown_not_ended_of_slow_start :
    let steps : List TimedStep :=
      [.act (.beginStart (.ok ())), .act (.acquire 0), .wait (.ofMilliseconds 5),
        .act (.beginShutdown (.ofMilliseconds 50)), .wait (.ofMilliseconds 995)]
    ∃ final, run? {} steps = some final ∧
      ¬ ∀ (operation : OperationNumber) (began : Instant) (grace : Duration),
        final.calls[operation]? = some (began, .beginShutdown grace) →
          began + 2 * grace.nanoseconds < final.now →
            ∃ result, final.control.operations[operation]? = some (.shutdownEnded result) := by
  intro steps
  have ran : ∃ final, run? {} steps = some final ∧
      final.calls[1]? = some (5000000, .beginShutdown (.ofMilliseconds 50)) ∧
        final.now = 1000000000 ∧
          final.control.operations[1]? = some (.shutdownQueued (.ofMilliseconds 50)) :=
    ⟨_, rfl, rfl, rfl, rfl⟩
  rcases ran with ⟨final, ran, called, now, waits⟩
  refine ⟨final, ran, fun ends => ?_⟩
  rcases ends 1 _ _ called (by rw [now]; decide) with ⟨result, ended⟩
  cases waits.symm.trans ended

end TimedControl

end Rendezvous
