import Rendezvous.Proofs.Lifecycle.Transition

/-!
# Who gets to the server

Of all starts and shutdowns of a control, one start and one shutdown at most ever do anything: the
start that prepares the server and calls it, and the shutdown that calls it. `Control.StartTurn` and
`Control.ShutdownTurn` follow these two through a run. Everybody else is told at once that there is
nothing to do and leaves the phase and the address as they are.
-/

namespace Rendezvous

/-- Whether the server comes up. -/
def ControlStep.comesUp : ControlStep → Bool
  | .serverStarted (.ok _) => true
  | _ => false

/-- Whether a start has done it. -/
def Deed.isOfStart : Deed → Bool
  | .prepared _ => true
  | .called .start => true
  | .called _ => false

namespace Control

/-- The steps by which the operations of a run have begun, in the order of their numbers. -/
def begun (steps : List ControlStep) : List ControlStep :=
  steps.filter ControlStep.begins

/-- The operation that takes a step. -/
def actor? (control : Control) : ControlStep → Option OperationNumber
  | .beginStart _ => some control.nextOperation
  | .beginShutdown _ => some control.nextOperation
  | .acquire operation => some operation
  | .serverStarted _ => control.holder
  | .serverAwaited _ => control.holder

/-- What starts have done. -/
def startDeeds (control : Control) : List (OperationNumber × Deed) :=
  control.deeds.filter fun entry => entry.2.isOfStart

/-- What shutdowns have done. -/
def shutdownDeeds (control : Control) : List (OperationNumber × Deed) :=
  control.deeds.filter fun entry => !entry.2.isOfStart

/-- What starts may have done if only one of them, or none, has done anything. -/
inductive StartDeeds : Option OperationNumber → List (OperationNumber × Deed) → Prop
  | nobody : StartDeeds none []
  | refused (starter : OperationNumber) : StartDeeds (some starter) [(starter, .prepared false)]
  | prepared (starter : OperationNumber) : StartDeeds (some starter) [(starter, .prepared true)]
  | called (starter : OperationNumber) :
      StartDeeds (some starter) [(starter, .prepared true), (starter, .called .start)]

/-- What a shutdown with a grace period does if the server does not end by itself. -/
def shutdownScript (operation : OperationNumber) (grace : Duration) :
    List (OperationNumber × Deed) :=
  [(operation, .called .shutdown), (operation, .called (.awaitTermination grace)),
    (operation, .called .shutdownNow), (operation, .called (.awaitTermination grace))]

/-- What shutdowns have done is the beginning of what one of them does. It has done nothing as long
as it waits for the server. -/
def ShutdownDeeds (control : Control) : Option (OperationNumber × Duration) → Prop
  | none => control.shutdownDeeds = []
  | some (stopper, grace) =>
      control.shutdownDeeds <+: shutdownScript stopper grace ∧
        (control.shutdownDeeds = [] →
          control.operations[stopper]? = some (.shutdownQueued grace))

/-- An operation has done nothing in a run, and none of its steps has changed the phase or the
address. -/
def Idle (steps : List ControlStep) (final : Control) (operation : OperationNumber) : Prop :=
  (∀ deed, (operation, deed) ∉ final.deeds) ∧
    ∀ before step after, TakesStep step? {} steps before step after →
      before.actor? step = some operation →
        after.phase = before.phase ∧ after.address = before.address

variable {control next final : Control} {step : ControlStep} {steps begins : List ControlStep}
  {starter : Option OperationNumber} {stopper : Option (OperationNumber × Duration)}

theorem startDeeds_append (control : Control) {done : List (OperationNumber × Deed)}
    (deeds : next.deeds = control.deeds ++ done) :
    next.startDeeds = control.startDeeds ++ done.filter fun entry => entry.2.isOfStart := by
  rw [startDeeds, deeds, List.filter_append]
  rfl

theorem shutdownDeeds_append (control : Control) {done : List (OperationNumber × Deed)}
    (deeds : next.deeds = control.deeds ++ done) :
    next.shutdownDeeds = control.shutdownDeeds ++ done.filter fun entry => !entry.2.isOfStart := by
  rw [shutdownDeeds, deeds, List.filter_append]
  rfl

theorem begun_concat_of_begins (begins : step.begins = true) :
    begun (steps ++ [step]) = begun steps ++ [step] := by
  simp [begun, begins]

theorem begun_concat (goesOn : step.begins = false) : begun (steps ++ [step]) = begun steps := by
  simp [begun, goesOn]

/-! ## The start -/

theorem StartDeeds.eq_nil {deeds : List (OperationNumber × Deed)} (done : StartDeeds none deeds) :
    deeds = [] := by
  cases done
  rfl

/-- What holds of the start that has claimed its turn, if there is one, after operations have begun
by the given steps. -/
structure StartTurn (begins : List ControlStep) (control : Control)
    (starter : Option OperationNumber) : Prop where
  length : begins.length = control.operations.length
  fresh : control.phase = .created → starter = none
  /-- The start that waits for the server has prepared it. -/
  queued : ∀ operation, control.operations[operation]? = some .startQueued →
    starter = some operation ∧ control.startDeeds = [(operation, .prepared true)]
  starting : ∀ operation, control.operations[operation]? = some .starting →
    starter = some operation
  deeds : StartDeeds starter control.startDeeds
  begun : ∀ operation, starter = some operation →
    ∃ prepared, begins[operation]? = some (.beginStart prepared)
  /-- All other starts come too late. -/
  others : ∀ operation prepared, begins[operation]? = some (.beginStart prepared) →
    starter = some operation ∨
      control.operations[operation]? = some (.startEnded (.error .alreadyStarted))

theorem startTurn_new : StartTurn [] {} none where
  length := rfl
  fresh _ := rfl
  queued _ found := by simp at found
  starting _ found := by simp at found
  deeds := .nobody
  begun _ named := by cases named
  others _ _ found := by simp at found

/-- An operation that begins and is no start that claims the turn leaves the turn alone. -/
theorem StartTurn.enlist {progress : Progress} (turn : StartTurn begins control starter)
    (listed : next.operations = control.operations ++ [progress])
    (same : next.startDeeds = control.startDeeds)
    (unready : progress ≠ .startQueued ∧ progress ≠ .starting)
    (forward : next.phase = .created → control.phase = .created)
    (late : ∀ prepared, step = .beginStart prepared →
      progress = .startEnded (.error .alreadyStarted)) :
    StartTurn (begins ++ [step]) next starter where
  length := by simp [listed, turn.length]
  fresh phase := turn.fresh (forward phase)
  queued operation found := by
    rw [listed, getElem?_concat_eq_some] at found
    rcases found with before | ⟨_, rfl⟩
    · rw [same]
      exact turn.queued operation before
    · exact absurd rfl unready.1
  starting operation found := by
    rw [listed, getElem?_concat_eq_some] at found
    rcases found with before | ⟨_, rfl⟩
    · exact turn.starting operation before
    · exact absurd rfl unready.2
  deeds := same ▸ turn.deeds
  begun operation named := by
    rcases turn.begun operation named with ⟨prepared, found⟩
    exact ⟨prepared, getElem?_concat_eq_some.mpr (Or.inl found)⟩
  others operation prepared found := by
    rw [listed, getElem?_concat_eq_some]
    rcases getElem?_concat_eq_some.mp found with before | ⟨newest, began⟩
    · exact (turn.others operation prepared before).imp id Or.inl
    · exact Or.inr (Or.inr ⟨turn.length ▸ newest, (late prepared began.symm).symm⟩)

theorem StartTurn.claim {progress : Progress} {prepared : Except SourceError Unit}
    {succeeded : Bool} (turn : StartTurn begins control starter)
    (fresh : control.phase = .created) (past : next.phase ≠ .created)
    (listed : next.operations = control.operations ++ [progress])
    (deeds : next.deeds = control.deeds ++ [(control.nextOperation, .prepared succeeded)])
    (ready : progress = .startQueued → succeeded = true) (idle : progress ≠ .starting) :
    StartTurn (begins ++ [.beginStart prepared]) next (some control.nextOperation) := by
  obtain rfl : starter = none := turn.fresh fresh
  have done : next.startDeeds = [(control.nextOperation, .prepared succeeded)] := by
    rw [startDeeds_append control deeds, turn.deeds.eq_nil]
    rfl
  exact {
    length := by simp [listed, turn.length]
    fresh phase := absurd phase past
    queued operation found := by
      rw [listed, getElem?_concat_eq_some] at found
      rcases found with before | ⟨rfl, rfl⟩
      · cases (turn.queued operation before).1
      · rw [done, ready rfl]
        exact ⟨rfl, rfl⟩
    starting operation found := by
      rw [listed, getElem?_concat_eq_some] at found
      rcases found with before | ⟨_, rfl⟩
      · cases turn.starting operation before
      · exact absurd rfl idle
    deeds := by
      rw [done]
      cases succeeded with
      | true => exact .prepared _
      | false => exact .refused _
    begun operation named := by
      cases named
      exact ⟨prepared, getElem?_concat_eq_some.mpr (Or.inr ⟨turn.length.symm, rfl⟩)⟩
    others operation other found := by
      rw [listed, getElem?_concat_eq_some]
      rcases getElem?_concat_eq_some.mp found with before | ⟨newest, _⟩
      · rcases turn.others operation other before with none | ended
        · cases none
        · exact Or.inr (Or.inl ended)
      · exact Or.inl (congrArg some (turn.length ▸ newest).symm) }

/-- An operation that comes further, but does not begin to wait for the server, leaves the turn of
the start alone. -/
theorem StartTurn.advance {operation : OperationNumber} {old progress : Progress}
    (turn : StartTurn begins control starter)
    (listed : next.operations = control.operations.set operation progress)
    (found : control.operations[operation]? = some old) (underWay : old.hasEnded = false)
    (unqueued : progress ≠ .startQueued)
    (talks : progress = .starting → starter = some operation)
    (forward : next.phase = .created → control.phase = .created)
    (done : next.startDeeds = control.startDeeds ∨
      (starter = some operation ∧ StartDeeds starter next.startDeeds)) :
    StartTurn begins next starter where
  length := by simp [listed, turn.length]
  fresh phase := turn.fresh (forward phase)
  queued other still := by
    rw [listed, getElem?_set_eq_some] at still
    rcases still with ⟨different, before⟩ | ⟨_, _, rfl⟩
    · have named := (turn.queued other before).1
      rcases done with same | ⟨mine, _⟩
      · exact ⟨named, same ▸ (turn.queued other before).2⟩
      · cases named.symm.trans mine
        exact absurd rfl different
    · exact absurd rfl unqueued
  starting other now := by
    rw [listed, getElem?_set_eq_some] at now
    rcases now with ⟨_, before⟩ | ⟨rfl, _, rfl⟩
    · exact turn.starting other before
    · exact talks rfl
  deeds := by
    rcases done with same | ⟨_, deeds⟩
    · exact same ▸ turn.deeds
    · exact deeds
  begun := turn.begun
  others other prepared began := by
    rw [listed, getElem?_set_eq_some]
    rcases turn.others other prepared began with mine | ended
    · exact Or.inl mine
    · refine Or.inr (Or.inl ⟨?_, ended⟩)
      rintro rfl
      cases found.symm.trans ended
      cases underWay

theorem Transition.startTurn (transition : control.Transition step next)
    (turn : StartTurn (begun steps) control starter) :
    ∃ taker, StartTurn (begun (steps ++ [step])) next taker ∧
      ∀ operation, starter = some operation → taker = some operation := by
  cases transition with
  | startLost prepared late =>
      rw [begun_concat_of_begins rfl]
      exact ⟨starter, turn.enlist rfl rfl ⟨nofun, nofun⟩ id fun _ _ => rfl, fun _ => id⟩
  | shutdownLost grace idle =>
      rw [begun_concat_of_begins rfl]
      exact ⟨starter, turn.enlist rfl rfl ⟨nofun, nofun⟩ id nofun, fun _ => id⟩
  | shutdownClaimed grace running =>
      rw [begun_concat_of_begins rfl]
      exact ⟨starter, turn.enlist rfl rfl ⟨nofun, nofun⟩ nofun nofun, fun _ => id⟩
  | startClaimed fresh =>
      rw [turn.fresh fresh, begun_concat_of_begins rfl]
      exact ⟨_, turn.claim fresh nofun rfl rfl (fun _ => rfl) nofun, nofun⟩
  | startRefused error fresh =>
      rw [turn.fresh fresh, begun_concat_of_begins rfl]
      exact ⟨_, turn.claim fresh nofun rfl rfl nofun nofun, nofun⟩
  | @startAcquired operation free found =>
      rcases turn.queued operation found with ⟨rfl, prepared⟩
      rw [begun_concat rfl]
      refine ⟨_, turn.advance rfl found rfl nofun (fun _ => rfl) id (Or.inr ⟨rfl, ?_⟩),
        fun _ => id⟩
      rw [startDeeds_append control rfl, prepared]
      exact .called operation
  | shutdownAcquired free found =>
      rw [begun_concat rfl]
      refine ⟨starter, turn.advance rfl found rfl nofun nofun id (Or.inl ?_), fun _ => id⟩
      rw [startDeeds_append control (List.append_assoc _ _ _)]
      exact List.append_nil _
  | serverUp address held found =>
      rw [begun_concat rfl]
      exact ⟨starter, turn.advance rfl found rfl nofun nofun id (Or.inl rfl), fun _ => id⟩
  | serverFailed error held found | drained held found | killed held found =>
      rw [begun_concat rfl]
      exact ⟨starter, turn.advance rfl found rfl nofun nofun nofun (Or.inl rfl), fun _ => id⟩
  | notKilled held found =>
      rw [begun_concat rfl]
      exact ⟨starter, turn.advance rfl found rfl nofun nofun id (Or.inl rfl), fun _ => id⟩
  | notDrained held found =>
      rw [begun_concat rfl]
      refine ⟨starter, turn.advance rfl found rfl nofun nofun nofun (Or.inl ?_), fun _ => id⟩
      rw [startDeeds_append control (List.append_assoc _ _ _)]
      exact List.append_nil _

/-! ## The shutdown -/

/-- What holds of the shutdown that has claimed its turn, if there is one, after operations have
begun by the given steps. -/
structure ShutdownTurn (begins : List ControlStep) (control : Control)
    (stopper : Option (OperationNumber × Duration)) : Prop where
  length : begins.length = control.operations.length
  early : control.phase = .created ∨ control.phase = .started → stopper = none
  /-- The shutdown that waits for the server has not called it. -/
  queued : ∀ operation grace, control.operations[operation]? = some (.shutdownQueued grace) →
    stopper = some (operation, grace) ∧ control.shutdownDeeds = []
  /-- The shutdown that drains the server holds it, and nothing has been done since it asked. -/
  draining : ∀ operation grace, control.operations[operation]? = some (.draining grace) →
    stopper = some (operation, grace) ∧ control.holder = some operation ∧
      control.shutdownDeeds = (shutdownScript operation grace).take 2 ∧
      control.shutdownDeeds <:+ control.deeds
  forcing : ∀ operation grace, control.operations[operation]? = some (.forcing grace) →
    stopper = some (operation, grace)
  deeds : control.ShutdownDeeds stopper
  /-- Nothing else is done between two calls of the shutdown. -/
  together : control.shutdownDeeds <:+: control.deeds
  begun : ∀ operation grace, stopper = some (operation, grace) →
    begins[operation]? = some (.beginShutdown grace)
  /-- All other shutdowns come too early or too late. -/
  others : ∀ operation grace, begins[operation]? = some (.beginShutdown grace) →
    stopper = some (operation, grace) ∨
      control.operations[operation]? = some (.shutdownEnded (.ok .notRunning))

theorem shutdownTurn_new : ShutdownTurn [] {} none where
  length := rfl
  early _ := rfl
  queued _ _ found := by simp at found
  draining _ _ found := by simp at found
  forcing _ _ found := by simp at found
  deeds := rfl
  together := List.infix_rfl
  begun _ _ named := by cases named
  others _ _ found := by simp at found

/-- An operation that begins and is no shutdown that claims the turn leaves the turn alone. -/
theorem ShutdownTurn.enlist {progress : Progress} {done : List (OperationNumber × Deed)}
    (turn : ShutdownTurn begins control stopper)
    (listed : next.operations = control.operations ++ [progress])
    (deeds : next.deeds = control.deeds ++ done)
    (none : (done.filter fun entry => !entry.2.isOfStart) = [])
    (same : next.holder = control.holder) (alone : done = [] ∨ stopper = .none)
    (idle : progress.shutsDown = false)
    (forward : next.phase = .created ∨ next.phase = .started →
      control.phase = .created ∨ control.phase = .started)
    (late : ∀ grace, step = .beginShutdown grace → progress = .shutdownEnded (.ok .notRunning)) :
    ShutdownTurn (begins ++ [step]) next stopper := by
  have kept : next.shutdownDeeds = control.shutdownDeeds := by
    rw [shutdownDeeds_append control deeds, none, List.append_nil]
  refine ⟨?_, ?_, ?_, ?_, ?_, ?_, ?_, ?_, ?_⟩
  · simp [listed, turn.length]
  · intro phase
    exact turn.early (forward phase)
  · intro operation grace found
    rw [listed, getElem?_concat_eq_some] at found
    rcases found with before | ⟨_, rfl⟩
    · rw [kept]
      exact turn.queued operation grace before
    · cases idle
  · intro operation grace found
    rw [listed, getElem?_concat_eq_some] at found
    rcases found with before | ⟨_, rfl⟩
    · rcases turn.draining operation grace before with ⟨mine, held, asked, last⟩
      rcases alone with rfl | nobody
      · rw [same, kept, deeds, List.append_nil]
        exact ⟨mine, held, asked, last⟩
      · cases nobody.symm.trans mine
    · cases idle
  · intro operation grace found
    rw [listed, getElem?_concat_eq_some] at found
    rcases found with before | ⟨_, rfl⟩
    · exact turn.forcing operation grace before
    · cases idle
  · cases stopper with
    | none => exact kept.trans turn.deeds
    | some named =>
        rcases turn.deeds with ⟨part, waits⟩
        refine ⟨kept ▸ part, fun nothing => ?_⟩
        rw [listed, getElem?_concat_eq_some]
        exact Or.inl (waits (kept ▸ nothing))
  · rw [kept, deeds]
    exact turn.together.trans (List.prefix_append _ _).isInfix
  · intro operation grace named
    exact getElem?_concat_eq_some.mpr (Or.inl (turn.begun operation grace named))
  · intro operation grace found
    rw [listed, getElem?_concat_eq_some]
    rcases getElem?_concat_eq_some.mp found with before | ⟨newest, began⟩
    · exact (turn.others operation grace before).imp id Or.inl
    · exact Or.inr (Or.inr ⟨turn.length ▸ newest, (late grace began.symm).symm⟩)

theorem ShutdownTurn.claim {grace : Duration} (turn : ShutdownTurn begins control stopper)
    (running : control.phase = .started) :
    ShutdownTurn (begins ++ [.beginShutdown grace])
      ({ control with phase := .shuttingDownGraceful }.enlist (.shutdownQueued grace))
      (some (control.nextOperation, grace)) := by
  obtain rfl : stopper = none := turn.early (Or.inr running)
  have nothing : control.shutdownDeeds = [] := turn.deeds
  refine ⟨?_, nofun, ?_, ?_, ?_, ⟨?_, ?_⟩, turn.together, ?_, ?_⟩
  · simp [Control.enlist, turn.length]
  · intro operation other found
    rcases getElem?_enlist.mp found with before | ⟨rfl, same⟩
    · cases (turn.queued operation other before).1
    · cases same
      exact ⟨rfl, nothing⟩
  · intro operation other found
    rcases getElem?_enlist.mp found with before | ⟨_, same⟩
    · cases (turn.draining operation other before).1
    · cases same
  · intro operation other found
    rcases getElem?_enlist.mp found with before | ⟨_, same⟩
    · cases turn.forcing operation other before
    · cases same
  · exact (congrArg (· <+: _) nothing).mpr List.nil_prefix
  · intro _
    exact getElem?_enlist.mpr (Or.inr ⟨rfl, rfl⟩)
  · intro operation other named
    cases named
    exact getElem?_concat_eq_some.mpr (Or.inr ⟨turn.length.symm, rfl⟩)
  · intro operation other found
    rcases getElem?_concat_eq_some.mp found with before | ⟨newest, began⟩
    · rcases turn.others operation other before with none | ended
      · cases none
      · exact Or.inr (getElem?_enlist.mpr (Or.inl ended))
    · cases began
      exact Or.inl (congrArg (fun number => some (number, grace)) (turn.length ▸ newest).symm)

/-- An operation that comes further leaves the turn of the shutdown alone if no shutdown calls the
server by it. -/
theorem ShutdownTurn.advance {operation : OperationNumber} {old progress : Progress}
    {done : List (OperationNumber × Deed)} (turn : ShutdownTurn begins control stopper)
    (listed : next.operations = control.operations.set operation progress)
    (deeds : next.deeds = control.deeds ++ done)
    (none : (done.filter fun entry => !entry.2.isOfStart) = [])
    (found : control.operations[operation]? = some old)
    (busy : old.hasEnded = false ∧ ∀ grace, old ≠ .shutdownQueued grace)
    (idle : progress.shutsDown = false)
    (alone : control.holder = .none ∨ control.holder = some operation)
    (forward : next.phase = .created ∨ next.phase = .started →
      control.phase = .created ∨ control.phase = .started) :
    ShutdownTurn begins next stopper := by
  have kept : next.shutdownDeeds = control.shutdownDeeds := by
    rw [shutdownDeeds_append control deeds, none, List.append_nil]
  refine ⟨?_, ?_, ?_, ?_, ?_, ?_, ?_, turn.begun, ?_⟩
  · simp [listed, turn.length]
  · intro phase
    exact turn.early (forward phase)
  · intro other grace still
    rw [listed, getElem?_set_eq_some] at still
    rcases still with ⟨_, before⟩ | ⟨_, _, rfl⟩
    · rw [kept]
      exact turn.queued other grace before
    · cases idle
  · intro other grace still
    rw [listed, getElem?_set_eq_some] at still
    rcases still with ⟨different, before⟩ | ⟨_, _, rfl⟩
    · -- Whoever drains the server holds it, so nobody else can come further.
      rcases turn.draining other grace before with ⟨_, held, _⟩
      rcases alone with free | mine
      · cases free.symm.trans held
      · cases mine.symm.trans held
        exact absurd rfl different
    · cases idle
  · intro other grace still
    rw [listed, getElem?_set_eq_some] at still
    rcases still with ⟨_, before⟩ | ⟨_, _, rfl⟩
    · exact turn.forcing other grace before
    · cases idle
  · cases stopper with
    | none => exact kept.trans turn.deeds
    | some named =>
        rcases turn.deeds with ⟨part, waits⟩
        refine ⟨kept ▸ part, fun nothing => ?_⟩
        have before := waits (kept ▸ nothing)
        rw [listed, getElem?_set_eq_some]
        refine Or.inl ⟨?_, before⟩
        rintro rfl
        cases found.symm.trans before
        exact busy.2 _ rfl
  · rw [kept, deeds]
    exact turn.together.trans (List.prefix_append _ _).isInfix
  · intro other grace began
    rw [listed, getElem?_set_eq_some]
    rcases turn.others other grace began with mine | ended
    · exact Or.inl mine
    · refine Or.inr (Or.inl ⟨?_, ended⟩)
      rintro rfl
      cases found.symm.trans ended
      cases busy.1

theorem ShutdownTurn.call {operation : OperationNumber} {grace : Duration}
    {old progress : Progress} {asked : List (OperationNumber × Deed)}
    (turn : ShutdownTurn begins control (some (operation, grace)))
    (listed : next.operations = control.operations.set operation progress)
    (found : control.operations[operation]? = some old) (busy : old.hasEnded = false)
    (asks : progress = .forcing grace ∨ (progress = .draining grace ∧
      next.holder = some operation ∧ asked = (shutdownScript operation grace).take 2))
    (done : next.shutdownDeeds = asked) (deeds : asked <+: shutdownScript operation grace)
    (called : asked ≠ []) (last : asked <:+ next.deeds)
    (past : ¬(next.phase = .created ∨ next.phase = .started)) :
    ShutdownTurn begins next (some (operation, grace)) := by
  subst done
  have others : ∀ other limit, other ≠ operation →
      some (operation, grace) ≠ some (other, limit) := by
    intro other limit different same
    cases same
    exact different rfl
  refine ⟨?_, fun phase => absurd phase past, ?_, ?_, ?_,
    ⟨deeds, fun nothing => absurd nothing called⟩,
    last.isInfix, turn.begun, ?_⟩
  · simp [listed, turn.length]
  · intro other limit still
    rw [listed, getElem?_set_eq_some] at still
    rcases still with ⟨different, before⟩ | ⟨_, _, rfl⟩
    · exact absurd (turn.queued other limit before).1 (others other limit different)
    · rcases asks with same | ⟨same, _⟩ <;> cases same
  · intro other limit still
    rw [listed, getElem?_set_eq_some] at still
    rcases still with ⟨different, before⟩ | ⟨rfl, _, rfl⟩
    · exact absurd (turn.draining other limit before).1 (others other limit different)
    · rcases asks with same | ⟨same, held, asked⟩
      · cases same
      · cases same
        exact ⟨rfl, held, asked, last⟩
  · intro other limit still
    rw [listed, getElem?_set_eq_some] at still
    rcases still with ⟨different, before⟩ | ⟨rfl, _, rfl⟩
    · exact absurd (turn.forcing other limit before) (others other limit different)
    · rcases asks with same | ⟨same, _⟩
      · cases same
        rfl
      · cases same
  · intro other limit began
    rw [listed, getElem?_set_eq_some]
    rcases turn.others other limit began with mine | ended
    · exact Or.inl mine
    · refine Or.inr (Or.inl ⟨?_, ended⟩)
      rintro rfl
      cases found.symm.trans ended
      cases busy

theorem Transition.shutdownTurn (transition : control.Transition step next)
    (turn : ShutdownTurn (begun steps) control stopper) :
    ∃ taker, ShutdownTurn (begun (steps ++ [step])) next taker ∧
      ∀ named, stopper = some named → taker = some named := by
  cases transition with
  | startLost prepared late =>
      rw [begun_concat_of_begins rfl]
      exact ⟨stopper, turn.enlist rfl (List.append_nil _).symm rfl rfl (Or.inl rfl) rfl id nofun,
        fun _ => id⟩
  | startClaimed fresh =>
      rw [begun_concat_of_begins rfl]
      have nobody := turn.early (Or.inl fresh)
      exact ⟨stopper, turn.enlist rfl rfl rfl rfl (Or.inr nobody) rfl (fun _ => Or.inl fresh) nofun,
        fun _ => id⟩
  | startRefused error fresh =>
      rw [begun_concat_of_begins rfl]
      have nobody := turn.early (Or.inl fresh)
      exact ⟨stopper, turn.enlist rfl rfl rfl rfl (Or.inr nobody) rfl (fun _ => Or.inl fresh) nofun,
        fun _ => id⟩
  | shutdownLost grace idle =>
      rw [begun_concat_of_begins rfl]
      exact ⟨stopper, turn.enlist rfl (List.append_nil _).symm rfl rfl (Or.inl rfl) rfl id
        fun _ _ => rfl, fun _ => id⟩
  | shutdownClaimed grace running =>
      rw [begun_concat_of_begins rfl]
      refine ⟨_, turn.claim running, ?_⟩
      rw [turn.early (Or.inr running)]
      exact nofun
  | startAcquired free found =>
      rw [begun_concat rfl]
      exact ⟨stopper, turn.advance rfl rfl rfl found ⟨rfl, nofun⟩ rfl (Or.inl free) id, fun _ => id⟩
  | serverUp address held found =>
      rw [begun_concat rfl]
      exact ⟨stopper, turn.advance rfl (List.append_nil _).symm rfl found ⟨rfl, nofun⟩ rfl
        (Or.inr held) id, fun _ => id⟩
  | serverFailed error held found | drained held found | killed held found =>
      rw [begun_concat rfl]
      exact ⟨stopper, turn.advance rfl (List.append_nil _).symm rfl found ⟨rfl, nofun⟩ rfl
        (Or.inr held) nofun, fun _ => id⟩
  | notKilled held found =>
      rw [begun_concat rfl]
      exact ⟨stopper, turn.advance rfl (List.append_nil _).symm rfl found ⟨rfl, nofun⟩ rfl
        (Or.inr held) id, fun _ => id⟩
  | @shutdownAcquired operation grace free found =>
      rcases turn.queued operation grace found with ⟨rfl, nothing⟩
      rw [begun_concat rfl]
      refine ⟨_, turn.call rfl found rfl (Or.inr ⟨rfl, rfl, rfl⟩) ?_ (List.take_prefix 2 _) nofun
        ⟨control.deeds, ?_⟩ (fun early => nomatch turn.early early), fun _ => id⟩
      · rw [shutdownDeeds_append control (List.append_assoc _ _ _), nothing]
        rfl
      · exact (List.append_assoc control.deeds [_] [_]).symm
  | @notDrained operation grace held found =>
      rcases turn.draining operation grace found with ⟨rfl, _, asked, earlier, last⟩
      rw [begun_concat rfl]
      rw [asked] at last
      refine ⟨_, turn.call rfl found rfl (Or.inl rfl) ?_ List.prefix_rfl nofun ⟨earlier, ?_⟩ nofun,
        fun _ => id⟩
      · rw [shutdownDeeds_append control (List.append_assoc _ _ _), asked]
        rfl
      · simp [Control.record, Control.advance, ← last, shutdownScript]

/-! ## Everybody else -/

theorem StartTurn.eq_of_mem {operation : OperationNumber} {deed : Deed}
    (turn : StartTurn begins control starter) (member : (operation, deed) ∈ control.deeds)
    (ofStart : deed.isOfStart = true) : starter = some operation := by
  have listed : (operation, deed) ∈ control.startDeeds := List.mem_filter.mpr ⟨member, ofStart⟩
  have deeds := turn.deeds
  generalize control.startDeeds = done at listed deeds
  cases deeds with
  | nobody => cases listed
  | refused starter | prepared starter =>
      cases List.mem_singleton.mp listed
      rfl
  | called starter =>
      rcases List.mem_cons.mp listed with same | later
      · cases same
        rfl
      · cases List.mem_singleton.mp later
        rfl

theorem ShutdownTurn.eq_of_mem {operation : OperationNumber} {deed : Deed}
    (turn : ShutdownTurn begins control stopper) (member : (operation, deed) ∈ control.deeds)
    (ofShutdown : deed.isOfStart = false) : ∃ grace, stopper = some (operation, grace) := by
  have listed : (operation, deed) ∈ control.shutdownDeeds :=
    List.mem_filter.mpr ⟨member, by simp [ofShutdown]⟩
  have deeds := turn.deeds
  rcases stopper with _ | ⟨named, grace⟩
  · rw [show control.shutdownDeeds = [] from deeds] at listed
    cases listed
  · have scripted : ∀ entry ∈ shutdownScript named grace, entry.1 = named := by
      simp [shutdownScript]
    rw [← scripted _ (deeds.1.subset listed)]
    exact ⟨grace, rfl⟩

/-- Who takes a step has the turn afterwards, or leaves the phase and the address as they are. -/
theorem Transition.idle {ends : List ControlStep} {taker : Option OperationNumber}
    {halter : Option (OperationNumber × Duration)} {operation : OperationNumber}
    (transition : control.Transition step next) (acts : control.actor? step = some operation)
    (start : StartTurn begins control starter) (shutdown : ShutdownTurn begins control stopper)
    (started : StartTurn ends next taker) (shut : ShutdownTurn ends next halter)
    (takes : ∀ operation, starter = some operation → taker = some operation)
    (halts : ∀ named, stopper = some named → halter = some named) :
    taker = some operation ∨ (∃ grace, halter = some (operation, grace)) ∨
      (next.phase = control.phase ∧ next.address = control.address) := by
  cases transition with
  | startLost | shutdownLost => exact Or.inr (Or.inr ⟨rfl, rfl⟩)
  | startClaimed | startRefused =>
      cases acts
      exact Or.inl (started.eq_of_mem (List.mem_append_right _ (List.mem_singleton_self _)) rfl)
  | shutdownClaimed grace running =>
      cases acts
      have mine := shut.queued _ grace (getElem?_enlist.mpr (Or.inr ⟨rfl, rfl⟩))
      exact Or.inr (Or.inl ⟨grace, mine.1⟩)
  | startAcquired free found =>
      cases acts
      exact Or.inl (takes _ (start.queued _ found).1)
  | shutdownAcquired free found =>
      cases acts
      exact Or.inr (Or.inl ⟨_, halts _ (shutdown.queued _ _ found).1⟩)
  | serverUp _ held found | serverFailed _ held found =>
      cases held.symm.trans acts
      exact Or.inl (takes _ (start.starting _ found))
  | drained held found | notDrained held found =>
      cases held.symm.trans acts
      exact Or.inr (Or.inl ⟨_, halts _ (shutdown.draining _ _ found).1⟩)
  | killed held found | notKilled held found =>
      cases held.symm.trans acts
      exact Or.inr (Or.inl ⟨_, halts _ (shutdown.forcing _ _ found)⟩)

/-- What holds of a control and of the two operations that have claimed their turns after a run. -/
structure Turns (steps : List ControlStep) (control : Control) (starter : Option OperationNumber)
    (stopper : Option (OperationNumber × Duration)) : Prop where
  start : StartTurn (begun steps) control starter
  shutdown : ShutdownTurn (begun steps) control stopper
  idle : ∀ before step after operation, TakesStep step? {} steps before step after →
    before.actor? step = some operation →
      starter = some operation ∨ (∃ grace, stopper = some (operation, grace)) ∨
        (after.phase = before.phase ∧ after.address = before.address)

theorem turns_of_run? (ran : ({} : Control).run? steps = some final) :
    ∃ starter stopper, Turns steps final starter stopper := by
  rw [run?_eq_foldlM] at ran
  refine run_induction
    (motive := fun steps control => ∃ starter stopper, Turns steps control starter stopper)
    ⟨none, none, startTurn_new, shutdownTurn_new, ?_⟩ ?_ ran
  · rintro _ _ _ _ ⟨earlier, _, split, _⟩
    cases earlier <;> cases split
  · rintro steps control step next reached ⟨starter, stopper, start, shutdown, idle⟩ stepped
    have transition := transition_of_step? stepped
    rcases transition.startTurn start with ⟨taker, started, takes⟩
    rcases transition.shutdownTurn shutdown with ⟨halter, shut, halts⟩
    refine ⟨taker, halter, started, shut, fun before earlier after operation taken acts => ?_⟩
    rcases takesStep_concat reached stepped taken with earlier | ⟨rfl, rfl, rfl⟩
    · rcases idle _ _ _ operation earlier acts with mine | ⟨grace, mine⟩ | same
      · exact Or.inl (takes _ mine)
      · exact Or.inr (Or.inl ⟨grace, halts _ mine⟩)
      · exact Or.inr (Or.inr same)
    · exact transition.idle acts start shutdown started shut takes halts

theorem Turns.idle_of_ne {operation : OperationNumber} (turns : Turns steps final starter stopper)
    (start : starter ≠ some operation) (shutdown : ∀ grace, stopper ≠ some (operation, grace)) :
    Idle steps final operation := by
  refine ⟨fun deed member => ?_, fun before step after taken acts => ?_⟩
  · cases ofStart : deed.isOfStart with
    | true => exact start (turns.start.eq_of_mem member ofStart)
    | false =>
        rcases turns.shutdown.eq_of_mem member ofStart with ⟨grace, mine⟩
        exact shutdown grace mine
  · rcases turns.idle before step after operation taken acts with mine | ⟨grace, mine⟩ | same
    · exact absurd mine start
    · exact absurd mine (shutdown grace)
    · exact same

/-! ## The address -/

/-- The address is known once the server has come up, and no start is under way then. -/
structure AddressOf (steps : List ControlStep) (control : Control) : Prop where
  known : ∀ address, control.address = some address ↔ .serverStarted (.ok address) ∈ steps
  once : steps.countP ControlStep.comesUp = if control.address.isSome then 1 else 0
  past : control.address ≠ none → control.phase ≠ .created ∧
    control.count .startQueued + control.count .starting = 0

/-- The address becomes known when the server comes up, and does not change otherwise. -/
theorem Transition.address_cases (transition : control.Transition step next)
    (bound : AddressOf steps control) :
    (∃ address, step = .serverStarted (.ok address) ∧ control.address = none ∧
        next.address = some address) ∨
      ((∀ address, step ≠ .serverStarted (.ok address)) ∧ next.address = control.address) := by
  cases transition with
  | serverUp address held starting =>
      refine Or.inl ⟨address, rfl, ?_, rfl⟩
      by_contra known
      have talks : 0 < control.count .starting := count_pos starting
      have none := (bound.past known).2
      omega
  | _ => exact Or.inr ⟨nofun, rfl⟩

theorem Transition.past_of_serverUp {address : SocketAddress}
    (transition : control.Transition (.serverStarted (.ok address)) next)
    (sound : control.Sound) :
    next.phase ≠ .created ∧ next.count .startQueued + next.count .starting = 0 := by
  cases transition with
  | serverUp _ held found =>
      have talks := count_pos found
      have alone := sound.starts
      have claimed := sound.fresh
      grind [count, advance, Progress.stage]

theorem Transition.addressOf (transition : control.Transition step next) (sound : control.Sound)
    (bound : AddressOf steps control) : AddressOf (steps ++ [step]) next := by
  rcases transition.address_cases bound with ⟨address, rfl, unknown, known⟩ | ⟨other, same⟩
  · refine ⟨fun found => ?_, ?_, fun _ => transition.past_of_serverUp sound⟩
    · have absent : .serverStarted (.ok found) ∉ steps := by
        rw [← bound.known, unknown]
        exact nofun
      rw [known, List.mem_append, List.mem_singleton]
      simp [absent, eq_comm]
    · simp [List.countP_append, bound.once, unknown, known, ControlStep.comesUp]
  · refine ⟨fun found => ?_, ?_, fun known => ?_⟩
    · rw [same, bound.known, List.mem_append, List.mem_singleton]
      exact ⟨Or.inl, fun member => member.resolve_right fun last => other found last.symm⟩
    · have stays : step.comesUp = false := by
        cases step with
        | serverStarted result =>
            cases result with
            | ok address => exact absurd rfl (other address)
            | error _ => rfl
        | _ => rfl
      simp [List.countP_append, bound.once, same, stays]
    · rcases bound.past (same ▸ known) with ⟨claimed, none⟩
      exact transition.past claimed none

theorem addressOf_of_run? (ran : ({} : Control).run? steps = some final) :
    AddressOf steps final := by
  have reached := ran
  rw [run?_eq_foldlM] at reached
  refine run_induction (motive := AddressOf) ⟨fun _ => by simp, rfl, fun known => absurd rfl known⟩
    (fun steps control step next ran bound stepped => ?_) reached
  rw [← run?_eq_foldlM] at ran
  exact (transition_of_step? stepped).addressOf (sound_of_run? sound_new ran) bound

/-- In every run on a new control, one start at most prepares the server, and calls it once at most,
after the preparation has succeeded. One shutdown at most calls the server; its calls are the
beginning of those of its script, one right after the other. Every other start is told that the
server was started before and every other shutdown that there is nothing to do, and they are idle.
The address becomes known when the server comes up, which it does once at most, and never changes
otherwise. -/
theorem one_start_and_one_shutdown (ran : ({} : Control).run? steps = some final) :
    (∃ starter : Option OperationNumber,
      StartDeeds starter final.startDeeds ∧
        (∀ operation, starter = some operation →
          ∃ prepared, (begun steps)[operation]? = some (.beginStart prepared)) ∧
        ∀ operation prepared, (begun steps)[operation]? = some (.beginStart prepared) →
          starter ≠ some operation →
            final.operations[operation]? = some (.startEnded (.error .alreadyStarted)) ∧
              Idle steps final operation) ∧
    (∃ stopper : Option (OperationNumber × Duration),
      final.ShutdownDeeds stopper ∧ final.shutdownDeeds <:+: final.deeds ∧
        (∀ operation grace, stopper = some (operation, grace) →
          (begun steps)[operation]? = some (.beginShutdown grace)) ∧
        ∀ operation grace, (begun steps)[operation]? = some (.beginShutdown grace) →
          stopper ≠ some (operation, grace) →
            final.operations[operation]? = some (.shutdownEnded (.ok .notRunning)) ∧
              Idle steps final operation) ∧
    (∀ before step after, TakesStep step? {} steps before step after →
      (∃ address, step = .serverStarted (.ok address) ∧ before.address = none ∧
          after.address = some address) ∨
        ((∀ address, step ≠ .serverStarted (.ok address)) ∧ after.address = before.address)) ∧
    steps.countP ControlStep.comesUp = if final.address.isSome then 1 else 0 := by
  rcases turns_of_run? ran with ⟨starter, stopper, turns⟩
  refine ⟨⟨starter, turns.start.deeds, turns.start.begun, fun operation prepared began late => ?_⟩,
    ⟨stopper, turns.shutdown.deeds, turns.shutdown.together, turns.shutdown.begun,
      fun operation grace began late => ?_⟩, ?_, (addressOf_of_run? ran).once⟩
  · refine ⟨(turns.start.others operation prepared began).resolve_left late,
      turns.idle_of_ne late fun grace mine => ?_⟩
    cases began.symm.trans (turns.shutdown.begun operation grace mine)
  · refine ⟨(turns.shutdown.others operation grace began).resolve_left late,
      turns.idle_of_ne (fun mine => ?_) fun other mine => ?_⟩
    · rcases turns.start.begun operation mine with ⟨prepared, start⟩
      cases began.symm.trans start
    · cases began.symm.trans (turns.shutdown.begun operation other mine)
      exact late mine
  · rintro before step after ⟨earlier, later, rfl, reached, stepped⟩
    rw [← run?_eq_foldlM] at reached
    exact (transition_of_step? stepped).address_cases (addressOf_of_run? reached)

/-- Two starts and two shutdowns, where the server has to be forced. -/
theorem one_start_and_one_shutdown_of_forced_end :
    let steps : List ControlStep :=
      [.beginStart (.ok ()), .beginStart (.ok ()), .acquire 0,
        .serverStarted (.ok ⟨.v4 127 0 0 1, 8080⟩), .beginShutdown ⟨50⟩, .acquire 2,
        .beginShutdown ⟨70⟩, .serverAwaited false, .serverAwaited true]
    ∃ final, ({} : Control).run? steps = some final ∧ Idle steps final 1 ∧ Idle steps final 3 ∧
      steps.countP ControlStep.comesUp = 1 := by
  intro steps
  have ran : ∃ final, ({} : Control).run? steps = some final ∧ final.startDeeds =
      [(0, .prepared true), (0, .called .start)] ∧
        final.shutdownDeeds = shutdownScript 2 ⟨50⟩ ∧ final.address.isSome = true :=
    ⟨_, rfl, rfl, rfl, rfl⟩
  rcases ran with ⟨final, ran, started, shut, up⟩
  rcases one_start_and_one_shutdown ran with
    ⟨⟨starter, starts, _, late⟩, ⟨stopper, stops, _, _, tooLate⟩, _, once⟩
  refine ⟨final, ran, (late 1 (.ok ()) rfl ?_).2, (tooLate 3 ⟨70⟩ rfl ?_).2, ?_⟩
  · rw [started] at starts
    cases starts
    exact nofun
  · rintro rfl
    have same := stops.1
    rw [shut] at same
    exact absurd (List.cons_prefix_cons.mp same).1 (by decide)
  · rw [once, up]
    rfl

end Control

end Rendezvous
