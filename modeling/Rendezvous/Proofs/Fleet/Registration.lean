import Rendezvous.Proofs.Fleet.Move

/-!
# Registration

The registry of a fleet lists no source that is not in service (`Fleet.Sound`). It lists all that
are (`Fleet.Complete`) as long as no source takes itself out of the registry twice, for what it
removes the second time may belong to another source under the same id.
-/

namespace Rendezvous

namespace Fleet

/-- A fleet whose sources nobody has started. -/
structure New (fleet : Fleet) : Prop where
  empty : fleet.registry = Directory.empty
  idle : ∀ name member, fleet.members.find? name = some member → member.control = {}

/-- A source is in service under an id. -/
def Serves (fleet : Fleet) (sourceId : String) (name : SourceName) : Prop :=
  ∃ member, fleet.members.find? name = some member ∧ member.sourceId = sourceId ∧
    member.control.InService

/-- What holds of a fleet at any time. -/
structure Sound (fleet : Fleet) : Prop where
  standing : ∀ name member, fleet.members.find? name = some member → member.control.Standing
  listed : ∀ sourceId name, fleet.registry.find? sourceId = some name →
    fleet.Serves sourceId name

/-- Every source that is in service is registered. -/
def Complete (fleet : Fleet) : Prop :=
  ∀ sourceId name, fleet.Serves sourceId name → fleet.registry.find? sourceId = some name

/-- A step of a source leaves the entries of all others as they are. -/
def KeepsOthers (fleet : Fleet) (name : SourceName) (next : Fleet) : Prop :=
  ∀ sourceId other, other ≠ name → fleet.registry.find? sourceId = some other →
    next.registry.find? sourceId = some other

/-- A source that is out of service removes an entry from the registry. -/
def RemovesAgain (fleet : Fleet) (name : SourceName) (step : MemberStep) (next : Fleet) : Prop :=
  ∃ member changed other, fleet.members.find? name = some member ∧
    next.members.find? name = some changed ∧ ¬ member.control.InService ∧
      Control.Withdraws (step.onServer (.ok ())) changed.control ∧
        fleet.registry.find? member.sourceId = some other

/-- No step of a run has a source remove an entry a second time. -/
def RemovesOnce (fleet : Fleet) (steps : List (SourceName × MemberStep)) : Prop :=
  ∀ before name step after, TakesStep take? fleet steps before (name, step) after →
    ¬ before.RemovesAgain name step after

/-- No start of a run fails after a shutdown of the same source has claimed its turn. -/
def FailsUnclaimed (fleet : Fleet) (steps : List (SourceName × MemberStep)) : Prop :=
  ∀ before name error after member,
    TakesStep take? fleet steps before (name, .serverStarted (.error error)) after →
      before.members.find? name = some member → member.control.phase = .started

/-- No shutdown of a source begins while a start of the same source is under way. -/
def NoneOvertaken (fleet : Fleet) (steps : List (SourceName × MemberStep)) : Prop :=
  ∀ before name grace after member,
    TakesStep take? fleet steps before (name, .beginShutdown grace) after →
      before.members.find? name = some member → ¬ member.control.StartUnderWay

variable {fleet next final : Fleet} {registry after : Registry} {sourceId : String}
  {name other : SourceName} {member : Member} {control : Control} {step : ControlStep}
  {steps : List (SourceName × MemberStep)}

/-! ## One move -/

/-- The fleet after a source has moved. -/
def moved (fleet : Fleet) (name : SourceName) (member : Member) (registry : Registry)
    (control : Control) : Fleet :=
  { registry, members := fleet.members.put name { member with control } }

theorem find?_moved_self :
    (fleet.moved name member registry control).members.find? name =
      some { member with control } := by
  simp [moved, Directory.find?_put]

theorem find?_moved_of_ne (differs : other ≠ name) :
    (fleet.moved name member registry control).members.find? other =
      fleet.members.find? other := by
  simp [moved, Directory.find?_put, differs]

theorem serves_iff (found : fleet.members.find? name = some member) :
    fleet.Serves sourceId name ↔ member.sourceId = sourceId ∧ member.control.InService := by
  simp [Serves, found]

theorem serves_moved_self_iff :
    (fleet.moved name member registry control).Serves sourceId name ↔
      member.sourceId = sourceId ∧ control.InService :=
  serves_iff find?_moved_self

theorem serves_moved_of_ne_iff (differs : other ≠ name) :
    (fleet.moved name member registry control).Serves sourceId other ↔
      fleet.Serves sourceId other := by
  rw [Serves, Serves, find?_moved_of_ne differs]

theorem forall_moved {motive : Member → Prop}
    (others : ∀ other another, fleet.members.find? other = some another → motive another)
    (own : motive { member with control }) {another : Member}
    (present : (fleet.moved name member registry control).members.find? other = some another) :
    motive another := by
  by_cases same : other = name
  · subst same
    cases present.symm.trans find?_moved_self
    exact own
  · exact others other another ((find?_moved_of_ne same).symm.trans present)

theorem Sound.listed_moved (sound : fleet.Sound) (found : fleet.members.find? name = some member)
    (move : Member.Move fleet.registry name member step registry control)
    (listed : registry.find? sourceId = some other) :
    (fleet.moved name member registry control).Serves sourceId other := by
  have serves := move.transition.inService_iff (sound.standing name member found)
  rcases move.find?_eq_some listed with ⟨rfl, fresh, rfl, rfl⟩ | ⟨before, elsewhere⟩
  · refine serves_moved_self_iff.mpr ⟨rfl, serves.mpr ⟨?_, Or.inr ⟨fresh, rfl⟩⟩⟩
    simp [Control.Withdraws]
  · have served := sound.listed sourceId other before
    by_cases same : other = name
    · subst same
      rcases (serves_iff found).mp served with ⟨mine, inService⟩
      refine serves_moved_self_iff.mpr ⟨mine, serves.mpr ⟨?_, Or.inl inService⟩⟩
      intro withdraws
      exact elsewhere withdraws mine.symm
    · exact (serves_moved_of_ne_iff same).mpr served

theorem Sound.moved (sound : fleet.Sound) (found : fleet.members.find? name = some member)
    (move : Member.Move fleet.registry name member step registry control) :
    (fleet.moved name member registry control).Sound where
  standing _ _ present :=
    forall_moved (motive := fun another => another.control.Standing) sound.standing
      (move.transition.standing (sound.standing _ member found)) present
  listed _ _ listed := sound.listed_moved found move listed

theorem Complete.keepsOthers_moved (complete : fleet.Complete)
    (found : fleet.members.find? name = some member)
    (move : Member.Move fleet.registry name member step registry control)
    (once : Control.Withdraws step control →
      member.control.InService ∨ fleet.registry.find? member.sourceId = none) :
    fleet.KeepsOthers name (fleet.moved name member registry control) := by
  intro sourceId other differs listed
  cases move with
  | registers free _ _ =>
      have elsewhere : sourceId ≠ member.sourceId := by
        rintro rfl
        cases free.symm.trans listed
      simpa [Fleet.moved, Directory.find?_put, elsewhere] using listed
  | withdraws _ withdraws =>
      have elsewhere : sourceId ≠ member.sourceId := by
        rintro rfl
        rcases once withdraws with served | free
        · have own := complete _ _ ((serves_iff found).mpr ⟨rfl, served⟩)
          cases own.symm.trans listed
          exact differs rfl
        · cases free.symm.trans listed
      simpa [Fleet.moved, Directory.find?_erase, elsewhere] using listed
  | stays _ _ _ => exact listed

theorem Complete.moved (complete : fleet.Complete) (sound : fleet.Sound)
    (found : fleet.members.find? name = some member)
    (move : Member.Move fleet.registry name member step registry control)
    (once : Control.Withdraws step control →
      member.control.InService ∨ fleet.registry.find? member.sourceId = none) :
    (fleet.moved name member registry control).Complete := by
  intro sourceId other serves
  have standing := sound.standing name member found
  by_cases same : other = name
  · subst same
    rcases serves_moved_self_iff.mp serves with ⟨mine, served⟩
    rw [move.transition.inService_iff standing] at served
    cases move with
    | registers _ _ _ => simp [Fleet.moved, Directory.find?_put, mine]
    | withdraws _ withdraws => exact absurd withdraws served.1
    | stays _ _ unprepared =>
        have before := served.2.resolve_right fun claimed => unprepared claimed.1 claimed.2
        exact complete _ _ ((serves_iff found).mpr ⟨mine, before⟩)
  · have before := complete _ _ ((serves_moved_of_ne_iff same).mp serves)
    exact complete.keepsOthers_moved found move once sourceId other same before

/-! ## Runs -/

theorem New.sound (new : fleet.New) : fleet.Sound where
  standing name member found := by
    rw [new.idle name member found]
    exact Control.standing_new
  listed sourceId name listed := by
    rw [new.empty, Directory.find?_empty] at listed
    cases listed

theorem New.complete (new : fleet.New) : fleet.Complete := by
  rintro sourceId name ⟨member, found, _, served⟩
  rw [new.idle name member found] at served
  exact absurd served (Control.standing_new.not_inService_of_created rfl)

theorem Sound.after_step {step : MemberStep} (sound : fleet.Sound)
    (stepped : fleet.step? name step = some next) : next.Sound := by
  rcases move_of_step? stepped with ⟨member, _, control, registry, found, move, rfl⟩
  exact sound.moved found move

theorem sound_of_run (new : fleet.New) (ran : steps.foldlM take? fleet = some final) :
    final.Sound :=
  run_induction (motive := fun _ => Sound) new.sound
    (fun _ _ _ _ _ sound stepped => sound.after_step stepped) ran

/-- A step that is not the second removal of its source. -/
theorem Complete.after_step {step : MemberStep} (complete : fleet.Complete) (sound : fleet.Sound)
    (stepped : fleet.step? name step = some next)
    (once : ¬ fleet.RemovesAgain name step next) :
    next.Complete ∧ fleet.KeepsOthers name next := by
  rcases move_of_step? stepped with ⟨member, prepared, control, registry, found, move, rfl⟩
  have first : Control.Withdraws (step.onServer prepared) control →
      member.control.InService ∨ fleet.registry.find? member.sourceId = none := by
    intro withdraws
    by_contra again
    rcases not_or.mp again with ⟨out, taken⟩
    rcases Option.ne_none_iff_exists'.mp taken with ⟨other, listed⟩
    exact once ⟨member, _, other, found, find?_moved_self, out,
      MemberStep.withdraws_onServer_iff.mp withdraws, listed⟩
  exact ⟨complete.moved sound found move first, complete.keepsOthers_moved found move first⟩

/-- The second removal of a source hits another source. -/
theorem Sound.not_keepsOthers {step : MemberStep} (sound : fleet.Sound)
    (stepped : fleet.step? name step = some next) (again : fleet.RemovesAgain name step next) :
    ¬ fleet.KeepsOthers name next := by
  intro keeps
  rcases again with ⟨member, changed, other, found, present, out, withdraws, listed⟩
  have differs : other ≠ name := by
    rintro rfl
    exact out ((serves_iff found).mp (sound.listed _ _ listed)).2
  have kept := keeps _ _ differs listed
  rcases move_of_step? stepped with ⟨same, prepared, control, registry, found', move, rfl⟩
  cases found.symm.trans found'
  cases present.symm.trans find?_moved_self
  rw [move.erases (MemberStep.withdraws_onServer_iff.mp withdraws), Directory.find?_erase,
    if_pos rfl] at kept
  cases kept

/-- As long as no source removes an entry a second time, all that are in service are registered. -/
theorem complete_along {earlier later : List (SourceName × MemberStep)} (new : fleet.New)
    (once : fleet.RemovesOnce steps) (split : steps = earlier ++ later)
    (ran : earlier.foldlM take? fleet = some final) : final.Sound ∧ final.Complete := by
  refine holds_along (motive := fun state => state.Sound ∧ state.Complete)
    ⟨new.sound, new.complete⟩ ?_ split ran
  rintro before ⟨name, step⟩ after taken ⟨sound, complete⟩
  have stepped : before.step? name step = some after := taken.stepped
  exact ⟨sound.after_step stepped,
    (complete.after_step sound stepped (once before name step after taken)).1⟩

/-! ## When no shutdown overtakes a start that fails -/

/-- What holds of a new control, and is kept by every step that the run takes, holds of all sources
all along it. -/
theorem forall_along {property : Control → Prop} {earlier later : List (SourceName × MemberStep)}
    (new : fleet.New) (start : property {})
    (keep : ∀ before name step after member prepared control,
      TakesStep take? fleet steps before (name, step) after →
        before.members.find? name = some member → member.control.Standing →
          member.control.Transition (step.onServer prepared) control →
            property member.control → property control)
    (split : steps = earlier ++ later) (ran : earlier.foldlM take? fleet = some final) :
    final.Sound ∧
      ∀ name member, final.members.find? name = some member → property member.control := by
  refine holds_along (motive := fun state => state.Sound ∧ ∀ name member,
    state.members.find? name = some member → property member.control) ⟨new.sound, ?_⟩ ?_ split ran
  · intro name member found
    rw [new.idle name member found]
    exact start
  · rintro before ⟨name, step⟩ after taken ⟨sound, holds⟩
    have stepped : before.step? name step = some after := taken.stepped
    refine ⟨sound.after_step stepped, ?_⟩
    rcases move_of_step? stepped with ⟨member, prepared, control, registry, found, move, rfl⟩
    intro other another present
    refine forall_moved (motive := fun another => property another.control) holds ?_ present
    exact keep before name step _ member prepared control taken found
      (sound.standing name member found) move.transition (holds name member found)

theorem guarded_along {earlier later : List (SourceName × MemberStep)} (new : fleet.New)
    (unclaimed : fleet.FailsUnclaimed steps) (split : steps = earlier ++ later)
    (ran : earlier.foldlM take? fleet = some final) :
    final.Sound ∧
      ∀ name member, final.members.find? name = some member → member.control.Guarded := by
  refine forall_along new Control.guarded_new ?_ split ran
  intro before name step after member prepared control taken found standing transition guarded
  refine transition.guarded standing guarded fun error fails => ?_
  rw [MemberStep.onServer_eq_serverStarted_iff] at fails
  subst fails
  exact unclaimed before name error after member taken found

theorem FailsUnclaimed.removesOnce (new : fleet.New) (unclaimed : fleet.FailsUnclaimed steps) :
    fleet.RemovesOnce steps := by
  rintro before name step after taken ⟨member, changed, _, found, present, out, withdraws, _⟩
  have stepped : before.step? name step = some after := taken.stepped
  rcases taken with ⟨earlier, later, split, reached, moves⟩
  rcases guarded_along new unclaimed split reached with ⟨sound, guarded⟩
  rcases move_of_step? stepped with ⟨_, prepared, control, registry, found', move, rfl⟩
  cases found.symm.trans found'
  cases present.symm.trans find?_moved_self
  refine out ((guarded name member found).inService_of_withdraws (sound.standing name member found)
    (fun error fails => ?_) move.transition (MemberStep.withdraws_onServer_iff.mp withdraws))
  rw [MemberStep.onServer_eq_serverStarted_iff] at fails
  subst fails
  exact unclaimed before name error _ member ⟨earlier, later, split, reached, moves⟩ found

theorem apart_along {earlier later : List (SourceName × MemberStep)} (new : fleet.New)
    (alone : fleet.NoneOvertaken steps) (split : steps = earlier ++ later)
    (ran : earlier.foldlM take? fleet = some final) :
    final.Sound ∧ ∀ name member, final.members.find? name = some member → member.control.Apart := by
  refine forall_along new Control.apart_new ?_ split ran
  intro before name step after member prepared control taken found standing transition apart
  refine transition.apart standing.serving.sound apart fun grace begins => ?_
  rw [MemberStep.onServer_eq_beginShutdown_iff] at begins
  subst begins
  exact alone before name grace after member taken found

/-- A start that no shutdown has overtaken finds its source started when it fails. -/
theorem NoneOvertaken.failsUnclaimed (new : fleet.New) (alone : fleet.NoneOvertaken steps) :
    fleet.FailsUnclaimed steps := by
  rintro before name error after member ⟨earlier, later, split, reached, moves⟩ found
  have stepped : before.step? name (.serverStarted (.error error)) = some after := moves
  rcases move_of_step? stepped with ⟨_, prepared, control, registry, found', move, rfl⟩
  cases found.symm.trans found'
  refine (apart_along new alone split reached).2 name member found ?_
  cases move.transition with
  | serverFailed _ held starting => exact Nat.add_pos_right _ (Control.count_pos starting)

theorem noneOvertaken_cons {step : MemberStep} (stepped : fleet.step? name step = some next)
    (now : ∀ grace member, step = .beginShutdown grace → fleet.members.find? name = some member →
      ¬ member.control.StartUnderWay)
    (later : next.NoneOvertaken steps) : fleet.NoneOvertaken ((name, step) :: steps) := by
  intro before other grace after member taken found
  rcases takesStep_cons stepped taken with ⟨rfl, same, rfl⟩ | taken
  · cases same
    exact now grace member rfl found
  · exact later before other grace after member taken found

/-- Two sources under one id. -/
def twins : Fleet where
  members := Directory.ofList
    [("left", { sourceId := "orders" }), ("right", { sourceId := "orders" })]

theorem twins_new : twins.New where
  empty := rfl
  idle name member found := by
    simp only [twins, Directory.ofList, List.foldl, Directory.find?_put, Directory.find?_empty]
      at found
    split at found
    · cases found
      rfl
    · split at found <;> cases found
      rfl

end Fleet

end Rendezvous
