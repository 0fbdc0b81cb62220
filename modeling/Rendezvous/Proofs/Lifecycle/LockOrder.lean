import Rendezvous.Proofs.Lifecycle.Transition

/-!
# The order in which the server is handed over

The phase moves before the server is taken hold of, so a shutdown can claim its turn while the start
still waits for the server. What keeps the server from being started after it was shut down is the
lock that it is kept behind. An operation asks for the lock before it first gives control back, so
whoever claims first has also asked first. `Control.start_never_follows_shutdown` holds for every
lock that serves those who wait in the order in which they asked.
-/

namespace Rendezvous

/-- How a lock is handed over: whom it is given to of those who wait, who are listed in the order in
which they asked for it. -/
abbrev HandOver := List OperationNumber → Option OperationNumber

namespace Control

/-- Those who wait for the server. They have asked for it in the order in which they began. -/
def waiting (control : Control) : List OperationNumber :=
  (List.range control.operations.length).filter fun operation =>
    (control.operations[operation]?).any Progress.isQueued

/-- In a sequence of steps the server is handed over as the lock does it. -/
def HandedBy (control : Control) (handOver : HandOver) : List ControlStep → Prop
  | [] => True
  | step :: rest =>
      (∀ operation, step = .acquire operation → handOver control.waiting = some operation) ∧
        ∀ next, control.step? step = some next → next.HandedBy handOver rest

/-- Whether the server can be up after a step. It can from the moment at which it is called to
start until it has failed to or has ended. -/
def upAfter (control : Control) (up : Bool) : ControlStep → Bool
  | .acquire operation =>
      up || (control.operations[operation]?).any fun progress =>
        decide (progress.stage = .startQueued)
  | .serverStarted (.ok _) => true
  | .serverStarted (.error _) => false
  | .serverAwaited true => false
  | _ => up

/-- Whether the server can be up after a sequence of steps. -/
def canBeUp (control : Control) (up : Bool) : List ControlStep → Bool
  | [] => up
  | step :: rest =>
      match control.step? step with
      | none => up
      | some next => next.canBeUp (control.upAfter up step) rest

/-- The server has been called to shut down. -/
def ShutdownCalled (control : Control) : Prop :=
  ∃ operation, (operation, .called .shutdown) ∈ control.deeds

/-- Some shutdown has ended the server, with or without force. -/
def ShutdownDone (control : Control) : Prop :=
  ∃ (operation : OperationNumber) (outcome : ShutdownOutcome), outcome ≠ .notRunning ∧
    control.operations[operation]? = some (.shutdownEnded (.ok outcome))

/-- The start has asked for the server before the shutdown. -/
def StartsFirst (control : Control) : Prop :=
  ∀ (first second : OperationNumber) (grace : Duration),
    control.operations[first]? = some .startQueued →
      control.operations[second]? = some (.shutdownQueued grace) → first < second

variable {control next final : Control} {step : ControlStep} {steps : List ControlStep}
  {handOver : HandOver} {up : Bool}

/-! ## Waiting for the server -/

/-- Nobody who waits has asked before the one who is first in the queue. -/
theorem le_of_head?_waiting {first other : OperationNumber} {progress : Progress}
    (head : control.waiting.head? = some first)
    (queued : control.operations[other]? = some progress) (waits : progress.isQueued = true) :
    first ≤ other := by
  have within : other < control.operations.length := (List.getElem?_eq_some_iff.mp queued).1
  have member : other ∈ control.waiting := by
    rw [waiting, List.mem_filter, List.mem_range]
    exact ⟨within, by rw [queued]; exact waits⟩
  have ordered : control.waiting.Pairwise (· < ·) := List.pairwise_lt_range.filter _
  cases listed : control.waiting with
  | nil => simp [listed] at member
  | cons front rest =>
      rw [listed] at head member ordered
      cases head
      rcases List.mem_cons.mp member with rfl | later
      · exact Nat.le_refl _
      · exact Nat.le_of_lt ((List.pairwise_cons.mp ordered).1 other later)

/-- The lock serves first the one who has waited longest, so no start waits any more when a shutdown
gets hold of the server. -/
theorem no_start_waits (order : control.StartsFirst) {operation : OperationNumber}
    {grace : Duration} (queued : control.operations[operation]? = some (.shutdownQueued grace))
    (head : control.waiting.head? = some operation) : control.count .startQueued = 0 := by
  refine Nat.eq_zero_of_not_pos fun waits => ?_
  rcases List.countP_pos_iff.mp waits with ⟨progress, member, stage⟩
  rcases List.getElem?_of_mem member with ⟨other, found⟩
  cases progress with
  | startQueued =>
      exact absurd (order other operation grace found queued)
        (Nat.not_lt.mpr (le_of_head?_waiting head found rfl))
  | _ => simp [Progress.stage] at stage

/-- No shutdown waits while the start has yet to be claimed. -/
theorem Sound.no_shutdown_waits (sound : control.Sound) (fresh : control.phase = .created)
    (operation : OperationNumber) (grace : Duration) :
    control.operations[operation]? ≠ some (.shutdownQueued grace) := by
  intro queued
  have waits : 0 < control.count .shutdownQueued := count_pos queued
  have none := sound.early (Or.inl fresh)
  omega

/-- Whoever waits has waited before or is the newest, and a start is the newest only if none has
claimed its turn before. -/
theorem Transition.queued_cases (transition : control.Transition step next)
    {operation : OperationNumber} {progress : Progress}
    (found : next.operations[operation]? = some progress) (waits : progress.isQueued = true) :
    control.operations[operation]? = some progress ∨
      (operation = control.operations.length ∧
        (progress = .startQueued → control.phase = .created)) := by
  cases transition with
  | startClaimed fresh =>
      rcases getElem?_enlist.mp found with before | ⟨newest, _⟩
      · exact Or.inl before
      · exact Or.inr ⟨newest, fun _ => fresh⟩
  | shutdownClaimed | startLost | startRefused | shutdownLost =>
      rcases getElem?_enlist.mp found with before | ⟨newest, rfl⟩
      · exact Or.inl before
      · exact Or.inr ⟨newest, nofun⟩
  | _ =>
      rcases getElem?_advance.mp found with ⟨_, before⟩ | ⟨_, _, rfl⟩
      · exact Or.inl before
      · cases waits

/-- A start claims its turn before any shutdown does, and so it asks for the server before. -/
theorem Transition.startsFirst (transition : control.Transition step next)
    (sound : control.Sound) (order : control.StartsFirst) : next.StartsFirst := by
  intro first second grace started shut
  rcases transition.queued_cases started rfl with waited | ⟨newest, fresh⟩
  · rcases transition.queued_cases shut rfl with waitedToo | ⟨newest, _⟩
    · exact order first second grace waited waitedToo
    · rw [newest]
      exact (List.getElem?_eq_some_iff.mp waited).1
  · rcases transition.queued_cases shut rfl with waited | ⟨newestToo, _⟩
    · exact absurd waited (sound.no_shutdown_waits (fresh rfl) second grace)
    · rw [newest, ← newestToo, shut] at started
      cases started

/-! ## Calls to the server -/

/-- Only a shutdown that gets hold of the server calls it to shut down. -/
theorem Transition.shutdownCalled_iff (transition : control.Transition step next) :
    next.ShutdownCalled ↔ control.ShutdownCalled ∨
      ∃ operation grace, step = .acquire operation ∧
        control.operations[operation]? = some (.shutdownQueued grace) := by
  cases transition with
  | shutdownAcquired free queued =>
      simp [ShutdownCalled, advance, record, queued]
  | startAcquired free queued => simp [ShutdownCalled, advance, record, queued]
  | _ => simp [ShutdownCalled, enlist, advance, record]

/-- A shutdown that holds the server held it before or gets hold of it now. -/
theorem Transition.held_of_shutdown (transition : control.Transition step next)
    (held : 0 < next.count .draining + next.count .forcing) :
    0 < control.count .draining + control.count .forcing ∨
      ∃ operation grace, step = .acquire operation ∧
        control.operations[operation]? = some (.shutdownQueued grace) := by
  cases transition with
  | shutdownAcquired free queued => exact Or.inr ⟨_, _, rfl, queued⟩
  | startLost | startClaimed | startRefused | shutdownLost | shutdownClaimed =>
      exact Or.inl (by grind [count, enlist, record, Progress.stage])
  | startAcquired free found | serverUp _ holds found | serverFailed _ holds found
  | drained holds found | notDrained holds found | killed holds found | notKilled holds found =>
      have talks := count_pos found
      exact Or.inl (by grind [count, advance, record, Progress.stage])

/-- A shutdown ends the server only when it is told that the server has ended. -/
theorem Transition.shutdownDone_iff (transition : control.Transition step next) :
    next.ShutdownDone ↔ control.ShutdownDone ∨ step = .serverAwaited true := by
  constructor
  · rintro ⟨operation, outcome, ran, found⟩
    cases transition with
    | drained | killed => exact Or.inr rfl
    | startLost | startClaimed | startRefused | shutdownClaimed =>
        rcases getElem?_enlist.mp found with before | ⟨_, ended⟩
        · exact Or.inl ⟨operation, outcome, ran, before⟩
        · cases ended
    | shutdownLost grace idle =>
        rcases getElem?_enlist.mp found with before | ⟨_, ended⟩
        · exact Or.inl ⟨operation, outcome, ran, before⟩
        · cases ended
          exact absurd rfl ran
    | _ =>
        rcases getElem?_advance.mp found with ⟨_, before⟩ | ⟨_, _, ended⟩
        · exact Or.inl ⟨operation, outcome, ran, before⟩
        · cases ended
  · rintro (⟨operation, outcome, ran, found⟩ | rfl)
    · exact ⟨operation, outcome, ran, transition.ended found rfl⟩
    · cases transition with
      | @drained operation grace holds found =>
          have within := (List.getElem?_eq_some_iff.mp found).1
          exact ⟨operation, .graceful, nofun, getElem?_advance.mpr (Or.inr ⟨rfl, within, rfl⟩)⟩
      | @killed operation grace holds found =>
          have within := (List.getElem?_eq_some_iff.mp found).1
          exact ⟨operation, .forced, nofun, getElem?_advance.mpr (Or.inr ⟨rfl, within, rfl⟩)⟩

/-- A step does not bring the server up when no start is under way. -/
theorem Transition.upAfter_eq (transition : control.Transition step next)
    (none : control.count .startQueued + control.count .starting = 0)
    (told : step ≠ .serverAwaited true) (down : up = false) : control.upAfter up step = false := by
  subst down
  cases transition with
  | startAcquired free queued =>
      have waits : 0 < control.count .startQueued := count_pos queued
      omega
  | serverUp address holds starting =>
      have talks : 0 < control.count .starting := count_pos starting
      omega
  | shutdownAcquired free queued => simp [upAfter, queued, Progress.stage]
  | drained | killed => exact absurd rfl told
  | startLost | startClaimed | startRefused | shutdownLost | shutdownClaimed | serverFailed
  | notDrained | notKilled => rfl

/-! ## Runs on a fair lock -/

/-- What holds of a control whose server is handed over in order. -/
structure InOrder (control : Control) (up : Bool) : Prop where
  sound : control.Sound
  /-- The start has asked for the server before the shutdown. -/
  order : control.StartsFirst
  /-- A shutdown that holds the server has called it. -/
  called : 0 < control.count .draining + control.count .forcing → control.ShutdownCalled
  /-- Once the server has been called to shut down, no start is under way and none will be. -/
  past : control.ShutdownCalled → control.phase ≠ .created ∧
    control.count .startQueued + control.count .starting = 0
  /-- The server was not called to start after it was called to shut down. -/
  deeds : control.deeds.Pairwise fun earlier later =>
    earlier.2 = .called .shutdown → later.2 ≠ .called .start
  /-- A shutdown that has ended the server had called it, and the server is down. -/
  down : control.ShutdownDone → control.ShutdownCalled ∧ up = false

theorem inOrder_new : ({} : Control).InOrder false where
  sound := sound_new
  order _ _ _ started := by simp at started
  called held := by simp [count] at held
  past called := by
    rcases called with ⟨_, member⟩
    cases member
  deeds := List.Pairwise.nil
  down done := by
    rcases done with ⟨_, _, _, found⟩
    simp at found

/-- When a shutdown gets hold of the server, the start has been claimed and is over. -/
theorem InOrder.past_of_acquire (ordered : control.InOrder up) {operation : OperationNumber}
    {grace : Duration} (transition : control.Transition (.acquire operation) next)
    (head : control.waiting.head? = some operation)
    (queued : control.operations[operation]? = some (.shutdownQueued grace)) :
    control.phase ≠ .created ∧ control.count .startQueued + control.count .starting = 0 := by
  refine ⟨fun fresh => ordered.sound.no_shutdown_waits fresh operation grace queued, ?_⟩
  have waits := no_start_waits ordered.order queued head
  have held := ordered.sound.held
  cases transition with
  | startAcquired free found => cases queued.symm.trans found
  | shutdownAcquired free found =>
      rw [free] at held
      simp only [Option.isSome_none, Bool.false_eq_true, if_false] at held
      omega

/-- A step keeps the order, provided that the server is handed to the one who has waited longest. -/
theorem Transition.inOrder (transition : control.Transition step next)
    (ordered : control.InOrder up)
    (head : ∀ operation, step = .acquire operation → control.waiting.head? = some operation) :
    next.InOrder (control.upAfter up step) where
  sound := transition.sound ordered.sound
  order := transition.startsFirst ordered.sound ordered.order
  called held := by
    rw [transition.shutdownCalled_iff]
    rcases transition.held_of_shutdown held with before | now
    · exact Or.inl (ordered.called before)
    · exact Or.inr now
  past called := by
    rcases transition.shutdownCalled_iff.mp called with before | ⟨operation, grace, rfl, queued⟩
    · rcases ordered.past before with ⟨claimed, none⟩
      exact transition.past claimed none
    · rcases ordered.past_of_acquire transition (head operation rfl) queued with ⟨claimed, none⟩
      exact transition.past claimed none
  deeds := by
    cases transition with
    | startAcquired free queued =>
        refine List.pairwise_append.mpr ⟨ordered.deeds, List.pairwise_singleton _ _, ?_⟩
        rintro ⟨operation, deed⟩ member _ _ rfl
        have waits : 0 < control.count .startQueued := count_pos queued
        have none := (ordered.past ⟨operation, member⟩).2
        omega
    | _ => grind [enlist, advance, record, ordered.deeds]
  down done := by
    rw [transition.shutdownCalled_iff]
    rcases transition.shutdownDone_iff.mp done with before | rfl
    · rcases ordered.down before with ⟨called, down⟩
      refine ⟨Or.inl called, ?_⟩
      by_cases told : step = .serverAwaited true
      · rw [told, upAfter]
      · exact transition.upAfter_eq (ordered.past called).2 told down
    · refine ⟨Or.inl (ordered.called ?_), rfl⟩
      cases transition with
      | drained holds draining => exact Nat.add_pos_left (count_pos draining) _
      | killed holds forcing => exact Nat.add_pos_right _ (count_pos forcing)

theorem handedBy_append {earlier later : List ControlStep}
    (handed : control.HandedBy handOver (earlier ++ later)) :
    control.HandedBy handOver earlier := by
  induction earlier generalizing control with
  | nil => exact True.intro
  | cons step rest ih =>
      rcases handed with ⟨now, after⟩
      exact ⟨now, fun next stepped => ih (after next stepped)⟩

theorem handedBy_cons (stepped : control.step? step = some next)
    (now : ∀ operation, step = .acquire operation → handOver control.waiting = some operation)
    (after : next.HandedBy handOver steps) : control.HandedBy handOver (step :: steps) := by
  refine ⟨now, fun other reached => ?_⟩
  cases stepped.symm.trans reached
  exact after

/-- On a lock that serves those who wait in their order, a run keeps the order. -/
theorem inOrder_of_run? (fair : ∀ waiting, handOver waiting = waiting.head?)
    (ordered : control.InOrder up) (ran : control.run? steps = some final)
    (handed : control.HandedBy handOver steps) : final.InOrder (control.canBeUp up steps) := by
  induction steps generalizing control up with
  | nil =>
      cases ran
      exact ordered
  | cons step rest ih =>
      rcases step_of_run? ran with ⟨next, stepped, later⟩
      rcases handed with ⟨now, after⟩
      have head : ∀ operation, step = .acquire operation →
          control.waiting.head? = some operation := by
        intro operation acquires
        rw [← fair]
        exact now operation acquires
      have kept := (transition_of_step? stepped).inOrder ordered head
      rw [canBeUp, stepped]
      exact ih kept later (after next stepped)

theorem shutdownDone_of_run? (done : control.ShutdownDone) (ran : control.run? steps = some final) :
    final.ShutdownDone := by
  induction steps generalizing control with
  | nil =>
      cases ran
      exact done
  | cons step rest ih =>
      rcases step_of_run? ran with ⟨next, stepped, later⟩
      exact ih ((transition_of_step? stepped).shutdownDone_iff.mpr (Or.inl done)) later

/-- On a lock that serves those who wait in the order in which they asked, the server is never
called to start after it was called to shut down. Once a shutdown has ended the server, gracefully
or by force, the server is down, and it stays so in the rest of the run. -/
theorem start_never_follows_shutdown (handOver : HandOver)
    (fair : ∀ waiting, handOver waiting = waiting.head?)
    (ran : ({} : Control).run? steps = some final)
    (handed : ({} : Control).HandedBy handOver steps) :
    (final.deeds.Pairwise fun earlier later =>
        earlier.2 = .called .shutdown → later.2 ≠ .called .start) ∧
      ∀ earlier later rest, steps = earlier ++ later ++ rest →
        ∀ middle, ({} : Control).run? earlier = some middle → middle.ShutdownDone →
          ({} : Control).canBeUp false (earlier ++ later) = false := by
  refine ⟨(inOrder_of_run? fair inOrder_new ran handed).deeds, ?_⟩
  rintro earlier later rest rfl middle reached done
  rw [run?_append] at ran
  rcases Option.bind_eq_some_iff.mp ran with ⟨last, ranOn, _⟩
  have ordered := inOrder_of_run? fair inOrder_new ranOn (handedBy_append handed)
  rw [run?_append, reached] at ranOn
  exact (ordered.down (shutdownDone_of_run? done ranOn)).2

/-- A shutdown claims its turn while the start waits for the server, and gets hold of it after the
server has come up. -/
theorem start_never_follows_shutdown_of_queue :
    let steps : List ControlStep :=
      [.beginStart (.ok ()), .beginShutdown ⟨50⟩, .acquire 0,
        .serverStarted (.ok ⟨.v4 127 0 0 1, 8080⟩), .acquire 1, .serverAwaited true]
    (∃ final, ({} : Control).run? steps = some final ∧ final.ShutdownDone) ∧
      ({} : Control).HandedBy List.head? steps ∧ ({} : Control).canBeUp false steps = false := by
  intro steps
  have handed : ({} : Control).HandedBy List.head? steps := by
    refine handedBy_cons rfl nofun (handedBy_cons rfl nofun (handedBy_cons rfl ?_
      (handedBy_cons rfl nofun (handedBy_cons rfl ?_ (handedBy_cons rfl nofun True.intro)))))
    · rintro _ ⟨⟩
      rfl
    · rintro _ ⟨⟩
      rfl
  have ends : ∃ final, ({} : Control).run? steps = some final ∧ final.ShutdownDone :=
    ⟨_, rfl, 1, .graceful, by decide, rfl⟩
  rcases ends with ⟨final, ran, done⟩
  exact ⟨⟨final, ran, done⟩, handed,
    (start_never_follows_shutdown List.head? (fun _ => rfl) ran handed).2 steps [] [] rfl final ran
      done⟩

/-- Without a fair lock the shutdown may get hold of the server before the start does. -/
example :
    ({} : Control).canBeUp false [.beginStart (.ok ()), .beginShutdown ⟨50⟩, .acquire 1,
      .serverAwaited true, .acquire 0, .serverStarted (.ok ⟨.v4 127 0 0 1, 8080⟩)] = true := by
  rfl

end Control

end Rendezvous
