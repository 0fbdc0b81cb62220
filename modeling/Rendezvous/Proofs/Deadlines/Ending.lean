import Rendezvous.Proofs.Deadlines.Progress
import Rendezvous.Proofs.Ledger.Leaving

/-!
# The end of the deadline task

A deadline task has ended only when no scheduler is left and every deadline that was ever armed was
handed out, those included that were still in the inbox when the last scheduler went away
(`Snapshot.exhausted_of_finished`). Nor does it linger: once no scheduler is left it ends at the
first idle moment at which the latest deadline is due (`Snapshot.finished_iff_of_idle`), and it gets
there by its own steps, of which there are only so many (`Snapshot.endsAlone_iff`).
-/

namespace Rendezvous

namespace DeadlineTask

variable {task : DeadlineTask} {now : Instant}

/-- A started task without schedulers that has nothing to do and nothing to come has ended. -/
theorem finished_of_rests (started : task.Started) (rests : task.Rests now)
    (last : task.schedulers = 0) (outstanding : task.outstanding = []) :
    task.phase = .finished := by
  rcases started with running | finished
  · have empty := List.append_eq_nil_iff.mp outstanding
    have closed := rests.closed
    have ended := rests.finished
    cases accepting : task.accepting with
    | true => simp [close?, running, accepting, empty.1, last] at closed
    | false => simp [finish?, running, accepting, Agenda.isEmpty, empty.2] at ended
  · exact finished

/-- A task that has ended has nothing left to hand out. -/
theorem Sound.outstanding_of_finished (sound : task.Sound) (finished : task.phase = .finished) :
    task.schedulers = 0 ∧ task.outstanding = [] := by
  have ended := sound.ended finished
  have closed := sound.closed ended.1
  exact ⟨closed.1, List.append_eq_nil_iff.mpr ⟨closed.2, ended.2⟩⟩

end DeadlineTask

namespace Snapshot

variable {start snapshot : Snapshot} {run steps : List Occurrence} {deadline : Deadline}

/-- Every deadline that is armed in a run is handed out in it, each once. -/
def AllFired (start : Snapshot) (run : List Occurrence) : Prop :=
  ((start.firings run).map Prod.snd).Perm (start.armings run)

/-- Every deadline that is armed in a run is due at its end. -/
def AllArmedDue (start : Snapshot) (run : List Occurrence) : Prop :=
  ∀ deadline ∈ start.armings run, deadline.due ≤ (start.undergoAll run).now

/-- The task ends if it is left alone: the steps that it can take come to an end, and when it can
take none it has ended. -/
def EndsAlone (snapshot : Snapshot) : Prop :=
  ∃ bound, ∀ steps, snapshot.Works steps →
    steps.length ≤ bound ∧
      ((snapshot.undergoAll steps).source.task.Rests (snapshot.undergoAll steps).now →
        (snapshot.undergoAll steps).source.task.phase = .finished)

/-! ## What has ended -/

theorem AllFired.allDue (fired : start.AllFired run) : start.AllArmedDue run := by
  intro deadline armed
  rcases List.mem_map.mp (fired.mem_iff.mpr armed) with ⟨⟨time, _⟩, member, rfl⟩
  have bounds := due_of_mem_firings member
  exact Nat.le_trans bounds.1 bounds.2

/-- Of a new task, what is armed in a run is handed out in it or outstanding at its end. -/
theorem armings_perm (new : start.source.task = {})
    (kept : (start.undergoAll run).source.task.phase ≠ .dropped) :
    (start.armings run).Perm
      ((start.firings run).map Prod.snd ++ (start.undergoAll run).source.task.outstanding) := by
  have accounts := accounts (Source.taskSound_of_new new) kept
  have none : start.source.task.outstanding = [] := by
    rw [new]
    rfl
  rwa [none, List.nil_append] at accounts

/-- At the end of the task nothing more can be armed, and all that was armed was handed out. -/
theorem exhausted_of_finished (new : start.source.task = {})
    (finished : (start.undergoAll run).source.task.phase = .finished) :
    (start.undergoAll run).source.task.schedulers = 0 ∧ start.AllFired run := by
  have sound := (taskSound_undergoAll (Source.taskSound_of_new new) run).sound
  have ended := sound.outstanding_of_finished finished
  have kept : (start.undergoAll run).source.task.phase ≠ .dropped := by
    simp [finished]
  have armed := armings_perm new kept
  rw [ended.2, List.append_nil] at armed
  exact ⟨ended.1, armed.symm⟩

/-! ## When it ends -/

/-- At an idle moment the task has ended just if no scheduler is left and all that was armed is due:
a deadline that is still outstanding would be to come. -/
theorem finished_iff_of_idle (new : start.source.task = {}) (idle : (start.undergoAll run).IsIdle) :
    (start.undergoAll run).source.task.phase = .finished ↔
      (start.undergoAll run).source.task.schedulers = 0 ∧ start.AllArmedDue run := by
  constructor
  · intro finished
    have exhausted := exhausted_of_finished new finished
    exact ⟨exhausted.1, exhausted.2.allDue⟩
  · rintro ⟨last, allDue⟩
    have sound := (taskSound_undergoAll (Source.taskSound_of_new new) run).sound
    have later := sound.later_of_rests idle.1 idle.2
    have kept : (start.undergoAll run).source.task.phase ≠ .dropped := by
      rcases idle.1 with phase | phase <;> simp [phase]
    have armed := armings_perm new kept
    refine DeadlineTask.finished_of_rests idle.1 idle.2 last ?_
    rw [DeadlineTask.outstanding, later.1, List.nil_append, List.eq_nil_iff_forall_not_mem]
    intro deadline member
    have outstanding : deadline ∈ (start.undergoAll run).source.task.outstanding :=
      List.mem_append_right _ member
    have early := allDue deadline (armed.mem_iff.mpr (List.mem_append_right _ outstanding))
    exact absurd early (Nat.not_le.mpr (later.2 deadline member))

/-- At an idle moment all that was armed has been handed out if it is all due. -/
theorem allFired_iff_of_idle (new : start.source.task = {}) (idle : (start.undergoAll run).IsIdle) :
    start.AllFired run ↔ start.AllArmedDue run := by
  refine ⟨AllFired.allDue, fun allDue => ?_⟩
  have fired := firings_perm_of_rests new idle.1 idle.2
  rwa [List.filter_eq_self.mpr fun deadline member => decide_eq_true (allDue deadline member)]
    at fired

/-! ## The steps of the task alone -/

theorem now_undergoAll_steps (own : ∀ step ∈ steps, step.isStep = true) :
    (snapshot.undergoAll steps).now = snapshot.now := by
  induction steps generalizing snapshot with
  | nil => rfl
  | cons step rest ih =>
      rw [undergoAll_cons, ih fun other member => own other (List.mem_cons_of_mem _ member)]
      cases step with
      | pass duration => cases own _ List.mem_cons_self
      | _ => rfl

theorem schedulers_undergoAll_steps (own : ∀ step ∈ steps, step.isStep = true) :
    (snapshot.undergoAll steps).source.task.schedulers = snapshot.source.task.schedulers := by
  induction steps generalizing snapshot with
  | nil => rfl
  | cons step rest ih =>
      rw [undergoAll_cons, ih fun other member => own other (List.mem_cons_of_mem _ member)]
      exact (snapshot.source.taskMove_undergo snapshot.now step).schedulers
        (own step List.mem_cons_self)

theorem armings_steps (own : ∀ step ∈ steps, step.isStep = true) :
    snapshot.armings steps = [] := by
  induction steps generalizing snapshot with
  | nil => rfl
  | cons step rest ih =>
      rw [armings, armed?_of_step (own step List.mem_cons_self), Option.toList_none,
        List.nil_append]
      exact ih fun other member => own other (List.mem_cons_of_mem _ member)

theorem allArmedDue_append_steps (own : ∀ step ∈ steps, step.isStep = true) :
    start.AllArmedDue (run ++ steps) ↔ start.AllArmedDue run := by
  rw [AllArmedDue, AllArmedDue, armings_append, armings_steps own, List.append_nil,
    undergoAll_append, now_undergoAll_steps own]

/-- A started task ends by itself just if no scheduler is left and all that was armed is due. -/
theorem endsAlone_iff (new : start.source.task = {})
    (started : (start.undergoAll run).source.task.Started) :
    (start.undergoAll run).EndsAlone ↔
      (start.undergoAll run).source.task.schedulers = 0 ∧ start.AllArmedDue run := by
  have ends : ∀ steps, (start.undergoAll run).Works steps →
      ((start.undergoAll run).undergoAll steps).IsIdle →
        (((start.undergoAll run).undergoAll steps).source.task.phase = .finished ↔
          (start.undergoAll run).source.task.schedulers = 0 ∧ start.AllArmedDue run) := by
    intro steps works idle
    rw [← undergoAll_append] at idle ⊢
    rw [finished_iff_of_idle new idle, allArmedDue_append_steps works.isStep, undergoAll_append,
      schedulers_undergoAll_steps works.isStep]
  constructor
  · rintro ⟨bound, alone⟩
    rcases exists_works started with ⟨steps, works, idle⟩
    exact (ends steps works idle).mp ((alone steps works).2 idle.2)
  · intro exhausted
    refine ⟨(start.undergoAll run).source.task.effort, fun steps works => ⟨works.length_le, ?_⟩⟩
    intro rests
    have idle : ((start.undergoAll run).undergoAll steps).IsIdle :=
      ⟨started_undergoAll started steps, rests⟩
    exact (ends steps works idle).mpr exhausted

/-! ## The calls of the deadlines -/

theorem split_of_mem_firings (fired : deadline ∈ (snapshot.firings run).map Prod.snd) :
    ∃ earlier later, run = earlier ++ .fire :: later ∧
      deadline ∈ (snapshot.undergoAll earlier).source.handedOut
        (snapshot.undergoAll earlier).now := by
  induction run generalizing snapshot with
  | nil => cases fired
  | cons occurrence rest ih =>
      rw [firings, List.map_append, List.mem_append] at fired
      rcases fired with here | later
      · cases occurrence with
        | fire => exact ⟨[], rest, rfl, by simpa [Source.fired] using here⟩
        | _ => cases here
      · rcases ih later with ⟨earlier, last, rfl, handed⟩
        exact ⟨occurrence :: earlier, last, rfl, handed⟩

/-- When a deadline is handed out, no call stays pending under its id. -/
theorem find?_undergo_fire (handed : deadline ∈ snapshot.source.handedOut snapshot.now) :
    (snapshot.undergo .fire).source.ledger.find? deadline.id = none := by
  have closed : .closed deadline.id .expired ∈ snapshot.source.postings snapshot.now .fire :=
    List.mem_map.mpr ⟨deadline, handed, rfl⟩
  rw [ledger_undergo]
  exact Ledger.find?_postAll_closed closed (by simp [Source.postings])

theorem find?_of_made {id : CorrelationId} {ticket : Ticket}
    (made : ticket < snapshot.source.ledger.calls.length)
    (found : (snapshot.undergoAll run).source.ledger.find? id = some ticket) :
    snapshot.source.ledger.find? id = some ticket := by
  rw [ledger_undergoAll] at found
  exact Ledger.find?_of_made found made

/-- When the task has ended, no call is pending any more whose deadline was outstanding. -/
theorem gone_of_finished (task : snapshot.source.TaskSound) (sound : snapshot.source.ledger.Sound)
    {ticket : Ticket} (outstanding : deadline ∈ snapshot.source.task.outstanding)
    (pending : snapshot.source.ledger.find? deadline.id = some ticket)
    (finished : (snapshot.undergoAll run).source.task.phase = .finished) (id : CorrelationId) :
    (snapshot.undergoAll run).source.ledger.find? id ≠ some ticket := by
  intro found
  have ended := (taskSound_undergoAll task run).sound.outstanding_of_finished finished
  have kept : (snapshot.undergoAll run).source.task.phase ≠ .dropped := by
    simp [finished]
  have handedOut := accounts task kept
  rw [ended.2, List.append_nil] at handedOut
  rcases split_of_mem_firings (handedOut.mem_iff.mp (List.mem_append_left _ outstanding)) with
    ⟨earlier, later, rfl, handed⟩
  -- The call was pending all along under the one id, although its deadline was handed out.
  have made := sound.made pending
  have same : id = deadline.id := sound.single (find?_of_made made found) pending
  rw [undergoAll_append, undergoAll_cons, same] at found
  have grown : ticket <
      ((snapshot.undergoAll earlier).undergo .fire).source.ledger.calls.length := by
    rw [ledger_undergo, ledger_undergoAll]
    exact Nat.lt_of_lt_of_le made (Nat.le_trans (Ledger.length_calls_le_postAll _)
      (Ledger.length_calls_le_postAll _))
  have still := find?_of_made grown found
  rw [find?_undergo_fire handed] at still
  cases still

/-- What is armed is outstanding at first, unless the task was given up. -/
theorem outstanding_of_armed (sound : snapshot.source.TaskSound) {occurrence : Occurrence}
    (armed : snapshot.source.armed? snapshot.now occurrence = some deadline)
    (kept : (snapshot.undergo occurrence).source.task.phase ≠ .dropped) :
    deadline ∈ (snapshot.undergo occurrence).source.task.outstanding := by
  have moved := snapshot.source.taskMove_undergo snapshot.now occurrence
  have accounts := moved.accounts sound kept
  rw [armed, Source.fired_of_foreign (Source.foreign_of_armed armed), List.nil_append] at accounts
  exact accounts.mem_iff.mp (List.mem_append_right _ (Option.mem_toList.mpr rfl))

/-- The deadline task of a new source ends exactly when it should, in every run and whatever it
chooses. It has never ended before no scheduler is left and every deadline that was armed was handed
out. From then on it ends by itself, and it does so already as soon as the latest deadline is due;
so at an idle moment after the last scheduler has gone it has ended just if nothing that was armed
is to come. When it has ended, no call is pending that was pending when its deadline was armed. -/
theorem task_ends_iff (start : Snapshot) (new : start.source.task = {})
    (sound : start.source.ledger.Sound) (run : List Occurrence) :
    let final := start.undergoAll run
    let task := final.source.task
    (task.phase = .finished →
      task.schedulers = 0 ∧ start.AllFired run ∧ start.AllArmedDue run) ∧
    (task.Started →
      (task.schedulers = 0 ∧ start.AllFired run → final.EndsAlone) ∧
      (final.EndsAlone ↔ task.schedulers = 0 ∧ start.AllArmedDue run)) ∧
    (final.IsIdle →
      (task.phase = .finished ↔ task.schedulers = 0 ∧ start.AllFired run) ∧
      (task.schedulers = 0 → (task.phase = .finished ↔ start.AllArmedDue run))) ∧
    ∀ before occurrence later deadline ticket, run = before ++ occurrence :: later →
      let moment := start.undergoAll before
      moment.source.armed? moment.now occurrence = some deadline →
      (moment.undergo occurrence).source.ledger.find? deadline.id = some ticket →
        task.phase = .finished → ∀ id, final.source.ledger.find? id ≠ some ticket := by
  refine ⟨fun finished => ?_, fun started => ?_, fun idle => ?_, ?_⟩
  · have exhausted := exhausted_of_finished new finished
    exact ⟨exhausted.1, exhausted.2, exhausted.2.allDue⟩
  · have ends := endsAlone_iff new started
    exact ⟨fun spent => ends.mpr ⟨spent.1, spent.2.allDue⟩, ends⟩
  · have ended := finished_iff_of_idle new idle
    refine ⟨by rw [ended, allFired_iff_of_idle new idle], fun last => ?_⟩
    rw [ended]
    exact and_iff_right last
  · rintro before occurrence later deadline ticket rfl moment armed pending finished id
    have taskSound := taskSound_undergoAll (Source.taskSound_of_new new) before
    have ledgerSound := sound_undergo (sound_undergoAll sound before) occurrence
    rw [undergoAll_append, undergoAll_cons] at finished ⊢
    have kept : (moment.undergo occurrence).source.task.phase ≠ .dropped := by
      intro dropped
      cases finished.symm.trans (dropped_undergoAll dropped later)
    exact gone_of_finished (taskSound.undergo moment.now occurrence) ledgerSound
      (outstanding_of_armed taskSound armed kept) pending finished id

/-- The last scheduler goes away before the task is started, and with the deadline of a pending call
still in the inbox. -/
theorem task_ends_of_late_spawn :
    let start : Snapshot := ⟨0, { id := "echo", timeout := ⟨5⟩, handler := none }⟩
    let run : List Occurrence :=
      [.insert ⟨7⟩, .arm ⟨7⟩, .cloneScheduler, .dropScheduler, .dropScheduler, .spawn, .receive,
        .pass ⟨5⟩, .fire, .stopAccepting, .finish]
    start.source.task = {} ∧ start.source.ledger.Sound ∧ (start.undergoAll run).IsIdle ∧
      (start.undergoAll run).source.task.phase = .finished ∧
        start.firings run = [(5, ⟨5, ⟨7⟩⟩)] ∧ start.AllFired run ∧
          ∀ id, (start.undergoAll run).source.ledger.find? id ≠ some 0 := by
  intro start run
  have sound : start.source.ledger.Sound := Ledger.sound_of_empty rfl
  have finished : (start.undergoAll run).source.task.phase = .finished := by decide +kernel
  have idle : (start.undergoAll run).IsIdle :=
    ⟨Or.inr finished, DeadlineTask.rests_of_not_running (by simp [finished])⟩
  have fired : start.firings run = [(5, ⟨5, ⟨7⟩⟩)] := by decide +kernel
  have ends := task_ends_iff start rfl sound run
  have gone := ends.2.2.2 [.insert ⟨7⟩] (.arm ⟨7⟩) (run.drop 2) ⟨5, ⟨7⟩⟩ 0 rfl rfl rfl finished
  exact ⟨rfl, sound, idle, finished, fired, (ends.1 finished).2.1, gone⟩

end Snapshot

end Rendezvous
