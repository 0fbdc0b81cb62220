import Rendezvous.Proofs.Fleet.Registration

/-!
# Who is registered

As long as no shutdown of a source begins while its own start is under way, the registry tells at
every moment which sources are in service.
-/

namespace Rendezvous

namespace Fleet

variable {fleet final : Fleet} {steps : List (SourceName × MemberStep)}

/-- A start whose id is taken ends, and leaves the registry as it is. -/
theorem start_refused {name other : SourceName} {member : Member}
    (found : fleet.members.find? name = some member) (fresh : member.control.phase = .created)
    (taken : fleet.registry.find? member.sourceId = some other) :
    ∃ next changed, fleet.step? name .beginStart = some next ∧ next.registry = fleet.registry ∧
      next.members.find? name = some changed ∧ changed.control.phase = .stopped ∧
        changed.control.operations = member.control.operations ++
          [.startEnded (.error (.registry ⟨member.sourceId⟩))] := by
  have refused : Member.prepare fleet.registry name member =
      (fleet.registry, .error (.registry ⟨member.sourceId⟩)) := by
    simp [Member.prepare, fresh, Registry.register, Directory.contains, taken]
  have stepped : fleet.step? name .beginStart =
      some (fleet.moved name member fleet.registry
        (member.control.beginStart (.error (.registry ⟨member.sourceId⟩)))) := by
    simp only [step?, found, Member.step?, refused]
    rfl
  refine ⟨_, _, stepped, rfl, find?_moved_self, ?_, ?_⟩
  · simp [Control.beginStart, Phase.move, fresh, Control.enlist, Control.record]
  · simp [Control.beginStart, Phase.move, fresh, Control.enlist, Control.record]

theorem registered_iff_in_service (new : fleet.New) (alone : fleet.NoneOvertaken steps)
    (ran : fleet.run? steps = some final) :
    (∀ sourceId name, final.registry.find? sourceId = some name ↔
      ∃ member, final.members.find? name = some member ∧ member.sourceId = sourceId ∧
        member.control.InService) ∧
    (∀ name member progress, final.members.find? name = some member →
      progress ∈ member.control.operations → progress.shutsDown = true →
        final.registry.find? member.sourceId = some name) ∧
    (∀ name other member another, final.members.find? name = some member →
      final.members.find? other = some another → member.sourceId = another.sourceId →
        member.control.phase = .started → another.control.phase = .started → name = other) ∧
    (∀ name other member, final.members.find? name = some member →
      member.control.phase = .created → final.registry.find? member.sourceId = some other →
        ∃ next changed, final.step? name .beginStart = some next ∧
          next.registry = final.registry ∧ next.members.find? name = some changed ∧
            changed.control.phase = .stopped ∧
              changed.control.operations = member.control.operations ++
                [.startEnded (.error (.registry ⟨member.sourceId⟩))]) ∧
    ((∀ name member, final.members.find? name = some member →
        ∀ progress ∈ member.control.operations, progress.hasEnded = true) →
      ∀ sourceId name, final.registry.find? sourceId = some name ↔
        ∃ member, final.members.find? name = some member ∧ member.sourceId = sourceId ∧
          member.control.phase = .started) := by
  have ran' : steps.foldlM take? fleet = some final := (run?_eq_foldlM fleet steps).symm.trans ran
  have whole : steps = steps ++ [] := (List.append_nil steps).symm
  have unclaimed := alone.failsUnclaimed new
  rcases complete_along new (unclaimed.removesOnce new) whole ran' with ⟨sound, complete⟩
  have guarded := (guarded_along new unclaimed whole ran').2
  have listed : ∀ sourceId name, final.registry.find? sourceId = some name ↔
      final.Serves sourceId name :=
    fun sourceId name => ⟨sound.listed sourceId name, complete sourceId name⟩
  have running : ∀ name member, final.members.find? name = some member →
      member.control.phase = .started → final.registry.find? member.sourceId = some name := by
    intro name member found started
    have standing := sound.standing name member found
    exact complete _ _ ((serves_iff found).mpr ⟨rfl, standing.inService_of_started started⟩)
  refine ⟨listed, ?_, ?_, ?_, ?_⟩
  · intro name member progress found entry shuts
    rcases List.getElem?_of_mem entry with ⟨operation, present⟩
    have serves := (guarded name member found).inService (sound.standing name member found)
      (Control.shuttingDown_pos present shuts)
    exact complete _ _ ((serves_iff found).mpr ⟨rfl, serves⟩)
  · intro name other member another found present same started alsoStarted
    have mine := running name member found started
    rw [same, running other another present alsoStarted] at mine
    cases mine
    rfl
  · intro name other member found fresh taken
    exact start_refused found fresh taken
  · intro idle sourceId name
    rw [listed]
    refine exists_congr fun member => and_congr_right fun found => and_congr_right fun _ => ?_
    exact (sound.standing name member found).inService_iff_started (idle name member found)

/-- A source is shut down, after another one has been refused the id. -/
theorem registered_iff_in_service_of_refused_start :
    let steps : List (SourceName × MemberStep) :=
      [("left", .beginStart), ("left", .acquire 0),
        ("left", .serverStarted (.ok ⟨.v4 127 0 0 1, 8080⟩)), ("right", .beginStart),
        ("left", .beginShutdown ⟨50⟩), ("left", .acquire 1)]
    twins.New ∧ twins.NoneOvertaken steps ∧
      ∃ final, twins.run? steps = some final ∧ final.registry.find? "orders" = some "left" := by
  intro steps
  have alone : twins.NoneOvertaken steps := by
    refine noneOvertaken_cons rfl nofun (noneOvertaken_cons rfl nofun (noneOvertaken_cons rfl nofun
      (noneOvertaken_cons rfl nofun (noneOvertaken_cons rfl ?_ (noneOvertaken_cons rfl nofun ?_)))))
    · intro grace member _ found
      cases found
      rw [Control.startUnderWay_iff]
      decide
    · intro _ _ _ _ _ taken
      exact absurd taken takesStep_nil
  have ran : ∃ final member, twins.run? steps = some final ∧
      final.members.find? "left" = some member ∧ member.sourceId = "orders" ∧
        member.control.operations[1]? = some (.draining ⟨50⟩) :=
    ⟨_, _, rfl, rfl, rfl, rfl⟩
  rcases ran with ⟨final, member, ran, found, same, draining⟩
  refine ⟨twins_new, alone, final, ran, ?_⟩
  rw [← same]
  exact (registered_iff_in_service twins_new alone ran).2.1 "left" member _ found
    (List.mem_of_getElem? draining) rfl

end Fleet

end Rendezvous
