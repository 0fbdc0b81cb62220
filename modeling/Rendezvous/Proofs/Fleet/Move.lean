import Rendezvous.Fleet
import Rendezvous.Proofs.Lifecycle.Service

/-!
# Moves of a fleet

A step of a source is a step of its server with one of three effects on the registry. A start that
claims its turn while the id is free registers the source, an operation that takes the server out of
service removes whatever is registered under the id, and every other step leaves the registry alone.
-/

namespace Rendezvous

/-- The step of the server that a step of a source is, if the preparation of a start ends as
given. -/
def MemberStep.onServer (prepared : Except SourceError Unit) : MemberStep → ControlStep
  | .beginStart => .beginStart prepared
  | .beginShutdown grace => .beginShutdown grace
  | .acquire operation => .acquire operation
  | .serverStarted result => .serverStarted result
  | .serverAwaited terminated => .serverAwaited terminated

theorem MemberStep.onServer_eq_serverStarted_iff {step : MemberStep}
    {prepared : Except SourceError Unit} {result : StartResult} :
    step.onServer prepared = .serverStarted result ↔ step = .serverStarted result := by
  cases step <;> simp [onServer]

theorem MemberStep.onServer_eq_beginShutdown_iff {step : MemberStep}
    {prepared : Except SourceError Unit} {grace : Duration} :
    step.onServer prepared = .beginShutdown grace ↔ step = .beginShutdown grace := by
  cases step <;> simp [onServer]

/-- Whether a step takes a server out of service does not depend on how a preparation ends. -/
theorem MemberStep.withdraws_onServer_iff {step : MemberStep}
    {prepared other : Except SourceError Unit} {next : Control} :
    Control.Withdraws (step.onServer prepared) next ↔
      Control.Withdraws (step.onServer other) next := by
  cases step <;> simp [Control.Withdraws, onServer]

namespace Member

/-- What a step of the server of a source does to the server and to the registry. -/
inductive Move (registry : Registry) (name : SourceName) (member : Member) :
    ControlStep → Registry → Control → Prop
  | registers {next : Control} (free : registry.find? member.sourceId = none)
      (fresh : member.control.phase = .created)
      (transition : member.control.Transition (.beginStart (.ok ())) next) :
      Move registry name member (.beginStart (.ok ())) (registry.put member.sourceId name) next
  | withdraws {step : ControlStep} {next : Control}
      (transition : member.control.Transition step next)
      (withdraws : Control.Withdraws step next) :
      Move registry name member step (registry.erase member.sourceId) next
  | stays {step : ControlStep} {next : Control}
      (transition : member.control.Transition step next)
      (remains : ¬ Control.Withdraws step next)
      (unprepared : member.control.phase = .created → step ≠ .beginStart (.ok ())) :
      Move registry name member step registry next

section

variable {registry after : Registry} {name : SourceName} {member : Member} {step : ControlStep}
  {next : Control}

theorem Move.transition (move : Move registry name member step after next) :
    member.control.Transition step next := by
  cases move with
  | registers _ _ transition | withdraws transition _ | stays transition _ _ => exact transition

/-- What is registered after a move has just been registered, or was registered before and has not
been removed. -/
theorem Move.find?_eq_some {sourceId : String} {other : SourceName}
    (move : Move registry name member step after next)
    (listed : after.find? sourceId = some other) :
    (step = .beginStart (.ok ()) ∧ member.control.phase = .created ∧ sourceId = member.sourceId ∧
        other = name) ∨
      (registry.find? sourceId = some other ∧
        (Control.Withdraws step next → sourceId ≠ member.sourceId)) := by
  cases move with
  | registers _ fresh _ =>
      rw [Directory.find?_put] at listed
      by_cases mine : sourceId = member.sourceId
      · rw [if_pos mine] at listed
        cases listed
        exact Or.inl ⟨rfl, fresh, mine, rfl⟩
      · rw [if_neg mine] at listed
        exact Or.inr ⟨listed, fun _ => mine⟩
  | withdraws _ _ =>
      rw [Directory.find?_erase] at listed
      by_cases mine : sourceId = member.sourceId
      · simp [mine] at listed
      · rw [if_neg mine] at listed
        exact Or.inr ⟨listed, fun _ => mine⟩
  | stays _ remains _ => exact Or.inr ⟨listed, fun withdraws => absurd withdraws remains⟩

theorem Move.erases (move : Move registry name member step after next)
    (withdraws : Control.Withdraws step next) : after = registry.erase member.sourceId := by
  cases move with
  | registers _ _ _ => simp [Control.Withdraws] at withdraws
  | withdraws _ _ => rfl
  | stays _ remains _ => exact absurd withdraws remains

end

variable {registry after : Registry} {name : SourceName} {member changed : Member}
  {step : MemberStep}

theorem move_beginStart (registry : Registry) (name : SourceName) (member : Member) :
    Move registry name member (.beginStart (prepare registry name member).2)
      (prepare registry name member).1
      (member.control.beginStart (prepare registry name member).2) := by
  by_cases fresh : member.control.phase = .created
  · cases found : registry.find? member.sourceId with
    | none =>
        have free : registry.contains member.sourceId = false := by simp [Directory.contains, found]
        simp only [prepare, Registry.register, fresh, free, if_true, Bool.false_eq_true, if_false]
        exact .registers found fresh (Control.transition_beginStart _ _)
    | some other =>
        have taken : registry.contains member.sourceId = true := by simp [Directory.contains, found]
        simp only [prepare, Registry.register, fresh, taken, if_true]
        exact .stays (Control.transition_beginStart _ _) (by simp [Control.Withdraws])
          fun _ same => by cases same
  · simp only [prepare, fresh, if_false]
    exact .stays (Control.transition_beginStart _ _) (by simp [Control.Withdraws])
      fun created => absurd created fresh

/-- Every possible step of a source is one of the moves. -/
theorem move_of_step? (stepped : member.step? registry name step = some (after, changed)) :
    ∃ prepared next, changed = { member with control := next } ∧
      Move registry name member (step.onServer prepared) after next := by
  cases step with
  | beginStart =>
      cases stepped
      exact ⟨_, _, rfl, move_beginStart registry name member⟩
  | beginShutdown grace =>
      cases stepped
      exact ⟨.ok (), _, rfl, .stays (Control.transition_beginShutdown _ grace)
        (by simp [Control.Withdraws, MemberStep.onServer]) fun _ same => by cases same⟩
  | acquire operation =>
      rcases Option.map_eq_some_iff.mp stepped with ⟨next, acquired, same⟩
      cases same
      exact ⟨.ok (), next, rfl, .stays (Control.transition_of_acquire? acquired)
        (by simp [Control.Withdraws, MemberStep.onServer]) fun _ same => by cases same⟩
  | serverStarted result =>
      rcases Option.map_eq_some_iff.mp stepped with ⟨next, answered, same⟩
      have transition := Control.transition_of_serverStarted? answered
      refine ⟨.ok (), next, ?_⟩
      cases result with
      | ok address =>
          cases same
          exact ⟨rfl, .stays transition (by simp [Control.Withdraws, MemberStep.onServer])
            fun _ same => by cases same⟩
      | error error =>
          cases same
          exact ⟨rfl, .withdraws transition (Or.inl ⟨error, rfl⟩)⟩
  | serverAwaited terminated =>
      rcases Option.map_eq_some_iff.mp stepped with ⟨next, answered, same⟩
      have transition := Control.transition_of_serverAwaited? answered
      refine ⟨.ok (), next, ?_⟩
      cases held : next.holder with
      | none =>
          simp only [held, Option.isNone_none, if_true] at same
          cases same
          exact ⟨rfl, .withdraws transition (Or.inr ⟨⟨terminated, rfl⟩, held⟩)⟩
      | some operation =>
          simp only [held, Option.isNone_some, Bool.false_eq_true, if_false] at same
          cases same
          exact ⟨rfl, .stays transition (by simp [Control.Withdraws, MemberStep.onServer, held])
            fun _ same => by cases same⟩

end Member

namespace Fleet

variable {fleet next : Fleet} {name : SourceName} {step : MemberStep}

/-- What a step does, if it is possible, where the source comes along with the step. -/
def take? (fleet : Fleet) (entry : SourceName × MemberStep) : Option Fleet :=
  fleet.step? entry.1 entry.2

theorem run?_eq_foldlM (fleet : Fleet) (steps : List (SourceName × MemberStep)) :
    fleet.run? steps = steps.foldlM take? fleet := by
  induction steps generalizing fleet with
  | nil => rfl
  | cons entry rest ih =>
      rw [run?, List.foldlM_cons, take?]
      cases fleet.step? entry.1 entry.2 with
      | none => rfl
      | some next => exact ih next

/-- Every possible step moves one source. -/
theorem move_of_step? (stepped : fleet.step? name step = some next) :
    ∃ member prepared control registry, fleet.members.find? name = some member ∧
      Member.Move fleet.registry name member (step.onServer prepared) registry control ∧
      next = { registry, members := fleet.members.put name { member with control } } := by
  rw [step?] at stepped
  cases found : fleet.members.find? name with
  | none => simp [found] at stepped
  | some member =>
      simp only [found, Option.map_eq_some_iff] at stepped
      rcases stepped with ⟨⟨registry, changed⟩, moved, rfl⟩
      rcases Member.move_of_step? moved with ⟨prepared, control, rfl, move⟩
      exact ⟨member, prepared, control, registry, rfl, move, rfl⟩

end Fleet

end Rendezvous
