import Rendezvous.Proofs.Fleet.Registration

/-!
# Removal

Every source keeps its entry in the registry until it removes it itself, unless another source under
the same id removes an entry for a second time. That happens when a shutdown claims its turn while
the start waits for the server and the start fails: both remove what they find under the id.
-/

namespace Rendezvous

namespace Fleet

variable {fleet final : Fleet} {steps : List (SourceName × MemberStep)}

/-- A step takes the entry of another source away just if it is the second removal of its source,
and there is none as long as no start fails after a shutdown of its source has claimed its turn. -/
theorem others_kept_iff (new : fleet.New) :
    ((∀ before name step after, TakesStep take? fleet steps before (name, step) after →
        before.KeepsOthers name after) ↔ fleet.RemovesOnce steps) ∧
      (fleet.FailsUnclaimed steps → fleet.RemovesOnce steps) := by
  refine ⟨⟨?_, ?_⟩, FailsUnclaimed.removesOnce new⟩
  · intro keeps before name step after taken again
    rcases taken with ⟨earlier, later, split, reached, stepped⟩
    refine (sound_of_run new reached).not_keepsOthers stepped again ?_
    exact keeps before name step after ⟨earlier, later, split, reached, stepped⟩
  · rintro once before name step after ⟨earlier, later, split, reached, stepped⟩
    rcases complete_along new once split reached with ⟨sound, complete⟩
    exact (complete.after_step sound stepped
      (once before name step after ⟨earlier, later, split, reached, stepped⟩)).2

/-- A source whose start fails, and another one that takes the id. -/
theorem others_kept_iff_of_failed_start :
    let steps : List (SourceName × MemberStep) :=
      [("left", .beginStart), ("left", .acquire 0),
        ("left", .serverStarted (.error (.bind ⟨.v4 127 0 0 1, 8080⟩ "address in use"))),
        ("right", .beginStart), ("left", .beginShutdown ⟨50⟩)]
    twins.New ∧ (∃ final, twins.run? steps = some final) ∧
      ∀ before name step after, TakesStep take? twins steps before (name, step) after →
        before.KeepsOthers name after := by
  intro steps
  have alone : twins.NoneOvertaken steps := by
    refine noneOvertaken_cons rfl nofun (noneOvertaken_cons rfl nofun (noneOvertaken_cons rfl nofun
      (noneOvertaken_cons rfl nofun (noneOvertaken_cons rfl ?_ ?_))))
    · intro grace member _ found
      cases found
      rw [Control.startUnderWay_iff]
      decide
    · intro _ _ _ _ _ taken
      exact absurd taken takesStep_nil
  have kept := @others_kept_iff twins steps twins_new
  exact ⟨twins_new, ⟨_, rfl⟩, kept.1.mpr (kept.2 (alone.failsUnclaimed twins_new))⟩

/-- A shutdown overtakes the start of one source, the start fails, and another source takes the id
before the shutdown ends. -/
theorem others_not_kept_of_overtaken_start :
    let steps : List (SourceName × MemberStep) :=
      [("left", .beginStart), ("left", .acquire 0), ("left", .beginShutdown ⟨50⟩),
        ("left", .serverStarted (.error (.bind ⟨.v4 127 0 0 1, 8080⟩ "address in use"))),
        ("right", .beginStart), ("left", .acquire 1), ("left", .serverAwaited true)]
    twins.New ∧ (∃ final, twins.run? steps = some final) ∧
      ¬ ∀ before name step after, TakesStep take? twins steps before (name, step) after →
        before.KeepsOthers name after := by
  intro steps
  refine ⟨twins_new, ⟨_, rfl⟩, fun kept => ?_⟩
  have last : ∃ before after,
      TakesStep take? twins steps before ("left", .serverAwaited true) after ∧
        before.registry.find? "orders" = some "right" ∧ after.registry.find? "orders" = none :=
    ⟨_, _, ⟨steps.take 6, [], rfl, rfl, rfl⟩, rfl, rfl⟩
  rcases last with ⟨before, after, taken, listed, gone⟩
  have still := kept before "left" _ after taken "orders" "right" (by decide) listed
  cases gone.symm.trans still

end Fleet

end Rendezvous
