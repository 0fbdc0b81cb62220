import Rendezvous.Proofs.Deadlines.Steps

/-!
# Accounting for deadlines

Every deadline that was armed in a run is outstanding at its end or was handed out, and not both
(`Snapshot.accounts`). A task that has nothing to do has no due deadline outstanding, so what it has
handed out is what was due (`Snapshot.firings_perm_of_rests`).
-/

namespace Rendezvous

namespace Snapshot

/-- The deadlines that are armed in a run. -/
def armings (snapshot : Snapshot) : List Occurrence → List Deadline
  | [] => []
  | occurrence :: rest =>
      (snapshot.source.armed? snapshot.now occurrence).toList ++
        (snapshot.undergo occurrence).armings rest

/-- The deadlines that are handed out in a run, each with the moment at which that is. -/
def firings (snapshot : Snapshot) : List Occurrence → List (Instant × Deadline)
  | [] => []
  | occurrence :: rest =>
      (snapshot.source.fired snapshot.now occurrence).map (snapshot.now, ·) ++
        (snapshot.undergo occurrence).firings rest

variable {snapshot : Snapshot}

theorem taskSound_undergoAll (sound : snapshot.source.TaskSound) (run : List Occurrence) :
    (snapshot.undergoAll run).source.TaskSound := by
  induction run generalizing snapshot with
  | nil => exact sound
  | cons occurrence rest ih =>
      rw [undergoAll_cons]
      exact ih (sound.undergo snapshot.now occurrence)

theorem dropped_undergoAll (dropped : snapshot.source.task.phase = .dropped)
    (run : List Occurrence) : (snapshot.undergoAll run).source.task.phase = .dropped := by
  induction run generalizing snapshot with
  | nil => exact dropped
  | cons occurrence rest ih =>
      rw [undergoAll_cons]
      exact ih ((snapshot.source.taskMove_undergo snapshot.now occurrence).dropped dropped)

/-- Unless the task is given up, every deadline that is outstanding at first or armed in the run is
handed out once or still outstanding. -/
theorem accounts (sound : snapshot.source.TaskSound) {run : List Occurrence}
    (kept : (snapshot.undergoAll run).source.task.phase ≠ .dropped) :
    (snapshot.source.task.outstanding ++ snapshot.armings run).Perm
      ((snapshot.firings run).map Prod.snd ++
        (snapshot.undergoAll run).source.task.outstanding) := by
  induction run generalizing snapshot with
  | nil => exact .of_eq (List.append_nil _)
  | cons occurrence rest ih =>
      rw [undergoAll_cons] at kept ⊢
      have soundAfter : (snapshot.undergo occurrence).source.TaskSound :=
        sound.undergo snapshot.now occurrence
      have later := ih soundAfter kept
      have moved := snapshot.source.taskMove_undergo snapshot.now occurrence
      have first := moved.accounts sound fun dropped => kept (dropped_undergoAll dropped rest)
      have names : ((snapshot.source.fired snapshot.now occurrence).map (snapshot.now, ·)).map
          Prod.snd = snapshot.source.fired snapshot.now occurrence := by
        rw [List.map_map]
        exact List.map_id _
      simp only [armings, firings, List.map_append, names, List.append_assoc]
      rw [← List.append_assoc]
      refine (first.append_right _).trans ?_
      rw [List.append_assoc]
      exact later.append_left _

/-- Nothing is handed out before it is due, nor in the future. -/
theorem due_of_mem_firings {run : List Occurrence} {time : Instant} {deadline : Deadline}
    (fired : (time, deadline) ∈ snapshot.firings run) :
    deadline.due ≤ time ∧ time ≤ (snapshot.undergoAll run).now := by
  induction run generalizing snapshot with
  | nil => cases fired
  | cons occurrence rest ih =>
      rcases List.mem_append.mp fired with here | later
      · rcases List.mem_map.mp here with ⟨_, handed, same⟩
        cases same
        refine ⟨?_, snapshot.now_le_undergoAll (occurrence :: rest)⟩
        cases occurrence with
        | fire => exact Source.due_of_handedOut handed
        | _ => cases handed
      · exact ih later

/-- At a moment at which the task was started and has nothing to do, it has handed out exactly what
was armed and is due, each deadline once. -/
theorem firings_perm_of_rests {run : List Occurrence} (new : snapshot.source.task = {})
    (started : (snapshot.undergoAll run).source.task.Started)
    (rests : (snapshot.undergoAll run).source.task.Rests (snapshot.undergoAll run).now) :
    ((snapshot.firings run).map Prod.snd).Perm
      ((snapshot.armings run).filter fun deadline =>
        decide (deadline.due ≤ (snapshot.undergoAll run).now)) := by
  have sound := Source.taskSound_of_new new
  have kept : (snapshot.undergoAll run).source.task.phase ≠ .dropped := by
    rcases started with phase | phase <;> simp [phase]
  have outstanding : snapshot.source.task.outstanding = [] := by
    rw [new]
    rfl
  have accounts := accounts sound kept
  rw [outstanding, List.nil_append] at accounts
  have later := (taskSound_undergoAll sound run).sound.later_of_rests started rests
  have none : (snapshot.undergoAll run).source.task.outstanding.filter
      (fun deadline => decide (deadline.due ≤ (snapshot.undergoAll run).now)) = [] := by
    rw [DeadlineTask.outstanding, later.1, List.nil_append, List.filter_eq_nil_iff]
    intro deadline member early
    exact absurd (of_decide_eq_true early) (Nat.not_le.mpr (later.2 deadline member))
  have all : ((snapshot.firings run).map Prod.snd).filter
      (fun deadline => decide (deadline.due ≤ (snapshot.undergoAll run).now)) =
        (snapshot.firings run).map Prod.snd := by
    rw [List.filter_eq_self]
    intro deadline member
    rcases List.mem_map.mp member with ⟨⟨time, _⟩, fired, rfl⟩
    have bounds := due_of_mem_firings fired
    exact decide_eq_true (Nat.le_trans bounds.1 bounds.2)
  have parts := (accounts.filter fun deadline =>
    decide (deadline.due ≤ (snapshot.undergoAll run).now)).symm
  rwa [List.filter_append, none, all, List.append_nil] at parts

end Snapshot

end Rendezvous
