import Rendezvous.Proofs.Occurrence.Frame

/-!
# Steps of the deadline task

What happens to a source moves its deadline task in one of nine ways (`Source.taskMove_undergo`).
Each of them keeps the task sound, and each accounts for the deadlines: what is outstanding before
or armed now is handed out now or outstanding afterwards (`Source.TaskMove.accounts`).
-/

namespace Rendezvous

/-! ## The steps of a task -/

namespace DeadlineTask

/-- The deadlines that were armed and not yet handed out. -/
def outstanding (task : DeadlineTask) : List Deadline :=
  task.inbox ++ task.agenda.deadlines

def Started (task : DeadlineTask) : Prop :=
  task.phase = .running ∨ task.phase = .finished

/-- No step of the task is possible at an instant. -/
structure Rests (task : DeadlineTask) (now : Instant) : Prop where
  /-- There is nothing to take up. -/
  received : task.receive? = none
  /-- Nothing is due. -/
  fired : task.fire? now = none
  /-- More can be armed, or it is known that nothing can. -/
  closed : task.close? = none
  /-- Something can still come. -/
  finished : task.finish? = none

variable {task next : DeadlineTask} {now : Instant} {fired : List Deadline}

theorem outstanding_arm (deadline : Deadline) (alive : task.phase = .idle ∨ task.phase = .running) :
    (task.arm deadline).outstanding.Perm (task.outstanding ++ [deadline]) := by
  have armed : task.arm deadline = { task with inbox := task.inbox ++ [deadline] } := by
    rcases alive with phase | phase <;> simp [arm, phase]
  rw [armed, outstanding, outstanding, List.append_assoc, List.append_assoc]
  exact List.perm_append_comm.append_left task.inbox

theorem eq_of_spawn? (spawned : task.spawn? = some next) :
    next = { task with phase := .running } := by
  rw [spawn?] at spawned
  split at spawned <;> simp_all

theorem eq_of_abandon? (abandoned : task.abandon? = some next) :
    next = { task with phase := .dropped, inbox := [] } := by
  rw [abandon?] at abandoned
  split at abandoned <;> simp_all

theorem eq_of_receive? (received : task.receive? = some next) :
    ∃ deadline rest, task.inbox = deadline :: rest ∧ task.phase = .running ∧
      next = { task with inbox := rest, agenda := task.agenda.push deadline } := by
  cases inbox : task.inbox with
  | nil => simp [receive?, inbox] at received
  | cons deadline rest =>
      simp only [receive?, inbox] at received
      split at received
      · exact ⟨deadline, rest, rfl, (‹_ ∧ _›).1, (Option.some.inj received).symm⟩
      · cases received

theorem eq_of_close? (closed : task.close? = some next) :
    task.phase = .running ∧ task.inbox = [] ∧ task.schedulers = 0 ∧
      next = { task with accepting := false } := by
  rw [close?] at closed
  split at closed <;> simp_all

theorem eq_of_finish? (finished : task.finish? = some next) :
    task.accepting = false ∧ task.agenda.deadlines = [] ∧
      next = { task with phase := .finished } := by
  rw [finish?] at finished
  split at finished <;> simp_all [Agenda.isEmpty]

/-- A task that fires hands out what is due and keeps the rest. -/
theorem eq_of_fire? (handed : task.fire? now = some (fired, next)) :
    task.phase = .running ∧
      fired = (task.agenda.deadlines.filter fun deadline => decide (deadline.due ≤ now)) ∧
      next = { task with agenda := (task.agenda.popExpired now).2 } := by
  have first := task.agenda.popExpired_fst now
  cases popped : task.agenda.popExpired now with
  | mk due agenda =>
      rw [popped] at first
      cases due with
      | nil => simp [fire?, popped] at handed
      | cons deadline rest =>
          simp only [fire?, popped] at handed
          split at handed
          · cases handed
            exact ⟨‹_›, first, rfl⟩
          · cases handed

theorem outstanding_receive (received : task.receive? = some next) :
    task.outstanding.Perm next.outstanding := by
  rcases eq_of_receive? received with ⟨deadline, rest, inbox, _, rfl⟩
  rw [outstanding, outstanding, inbox]
  exact ((task.agenda.push_perm deadline).append_left rest).trans List.perm_middle |>.symm

theorem outstanding_fire (handed : task.fire? now = some (fired, next)) :
    task.outstanding.Perm (fired ++ next.outstanding) := by
  rcases eq_of_fire? handed with ⟨_, rfl, rfl⟩
  have later : (fun deadline : Deadline => decide (now < deadline.due)) =
      fun deadline => !decide (deadline.due ≤ now) := by
    funext deadline
    rw [← decide_not]
    exact decide_eq_decide.mpr Nat.not_le.symm
  have parts := List.filter_append_perm (fun deadline => decide (deadline.due ≤ now))
    task.agenda.deadlines
  rw [outstanding, outstanding, Agenda.popExpired_snd, later]
  refine (parts.symm.append_left task.inbox).trans ?_
  rw [← List.append_assoc, ← List.append_assoc]
  exact List.perm_append_comm.append_right _

end DeadlineTask

/-! ## What happens to a source, for its task -/

namespace Source

/-- The deadline that something that happens arms, if it arms one. -/
def armed? (source : Source) (now : Instant) : Occurrence → Option Deadline
  | .accept _ metadata id =>
      source.handler.bind fun handler =>
        if source.refusal? handler metadata id = none then
          some ⟨now + source.timeout.nanoseconds, id⟩
        else none
  | .arm id =>
      if source.task.schedulers = 0 then none else some ⟨now + source.timeout.nanoseconds, id⟩
  | _ => none

/-- The deadlines that something that happens hands out. -/
def fired (source : Source) (now : Instant) : Occurrence → List Deadline
  | .fire => source.handedOut now
  | _ => []

/-- What something that happens can do to the deadline task. -/
inductive TaskMove (source : Source) (now : Instant) : Occurrence → DeadlineTask → Prop
  | stays {occurrence : Occurrence} (unarmed : source.armed? now occurrence = none)
      (unfired : source.fired now occurrence = []) : TaskMove source now occurrence source.task
  | arms {occurrence : Occurrence} {deadline : Deadline}
      (armed : source.armed? now occurrence = some deadline) :
      TaskMove source now occurrence (source.task.arm deadline)
  | recounts {occurrence : Occurrence} {count : Nat} (unarmed : source.armed? now occurrence = none)
      (foreign : occurrence.isStep = false)
      (exhausted : source.task.schedulers = 0 → count = 0)
      (held : (source.undergo now occurrence).handler.isSome = true → 0 < count) :
      TaskMove source now occurrence { source.task with schedulers := count }
  | spawns {next : DeadlineTask} (spawned : source.task.spawn? = some next) :
      TaskMove source now .spawn next
  | abandons {next : DeadlineTask} (abandoned : source.task.abandon? = some next) :
      TaskMove source now .abandon next
  | receives {next : DeadlineTask} (received : source.task.receive? = some next) :
      TaskMove source now .receive next
  | stops {next : DeadlineTask} (closed : source.task.close? = some next) :
      TaskMove source now .stopAccepting next
  | finishes {next : DeadlineTask} (finished : source.task.finish? = some next) :
      TaskMove source now .finish next
  | fires {next : DeadlineTask}
      (handed : source.task.fire? now = some (source.handedOut now, next)) :
      TaskMove source now .fire next

/-- Nothing that happens brings the side back that accepts calls. -/
theorem handler_of_undergo {source : Source} {now : Instant} {occurrence : Occurrence}
    (present : (source.undergo now occurrence).handler.isSome = true) :
    source.handler.isSome = true := by
  rw [(source.frame_undergo now occurrence).2.2.2.1] at present
  cases occurrence with
  | accept payload metadata id => simpa [handlerAfter] using present
  | close => cases present
  | _ => exact present

theorem fired_of_foreign {source : Source} {now : Instant} {occurrence : Occurrence}
    (foreign : occurrence.isStep = false) : source.fired now occurrence = [] := by
  cases occurrence with
  | fire => cases foreign
  | _ => rfl

theorem foreign_of_armed {source : Source} {now : Instant} {occurrence : Occurrence}
    {deadline : Deadline} (armed : source.armed? now occurrence = some deadline) :
    occurrence.isStep = false := by
  cases occurrence with
  | accept payload metadata id => rfl
  | arm id => rfl
  | _ => cases armed

theorem TaskMove.of_same {source : Source} {now : Instant} {occurrence : Occurrence}
    (unarmed : source.armed? now occurrence = none) (unfired : source.fired now occurrence = [])
    {task : DeadlineTask} (same : task = source.task) : source.TaskMove now occurrence task := by
  rw [same]
  exact .stays unarmed unfired

theorem task_work (source : Source) (step? : DeadlineTask → Option DeadlineTask) :
    (source.work step?).task = (step? source.task).getD source.task := by
  rw [work]
  cases step? source.task <;> rfl

/-- What happens to a source moves its task in one of these ways only. -/
theorem taskMove_undergo (source : Source) (now : Instant) (occurrence : Occurrence) :
    source.TaskMove now occurrence (source.undergo now occurrence).task := by
  cases occurrence with
  | accept payload metadata id =>
      cases handled : source.handler with
      | none => exact .of_same (by simp [armed?, handled]) rfl (by simp [undergo, handled])
      | some handler =>
          simp only [undergo, handled, accept_eq]
          cases refused : source.refusal? handler metadata id with
          | some status =>
              exact .of_same (by simp [armed?, handled, refused]) rfl
                (by simp [refuse_eq, withLedger])
          | none =>
              have arms : source.armed? now (.accept payload metadata id) =
                  some ⟨now + source.timeout.nanoseconds, id⟩ := by
                simp [armed?, handled, refused]
              have moved := TaskMove.arms arms
              simpa [insert_eq, arm, withLedger] using moved
  | arm id =>
      by_cases last : source.task.schedulers = 0
      · exact .of_same (by simp [armed?, last]) rfl (by simp [undergo, last])
      · have arms : source.armed? now (.arm id) =
            some ⟨now + source.timeout.nanoseconds, id⟩ := by
          simp [armed?, last]
        simpa [undergo, last, arm] using TaskMove.arms arms
  | complete id payload => exact .of_same rfl rfl (by simp [undergo, complete_eq])
  | insert id => exact .of_same rfl rfl (by simp [undergo, insert_eq])
  | withdraw id =>
      refine .of_same rfl rfl ?_
      cases taken : source.pending.take? id <;> simp [undergo, withdraw?, taken]
  | poll ticket =>
      refine .of_same rfl rfl ?_
      cases found : source.calls[ticket]? <;> simp [undergo, poll, found, changeCall]
  | takeEvent =>
      refine .of_same rfl rfl ?_
      cases taken : source.events <;> simp [undergo, takeEvent?, taken]
  | fire =>
      cases fired : source.task.fire? now with
      | none =>
          exact .of_same rfl (by simp [Source.fired, handedOut, fired])
            (by simp [undergo, fire?, fired])
      | some handed =>
          have same : source.handedOut now = handed.1 := by simp [handedOut, fired]
          have fires : source.task.fire? now = some (source.handedOut now, handed.2) := by
            rw [same, fired]
          simpa [undergo, fire?, fired, expireAll_eq, withTask] using TaskMove.fires fires
  | cloneScheduler =>
      by_cases last : source.task.schedulers = 0
      · exact .of_same rfl rfl (by simp [undergo, last])
      · have unarmed : source.armed? now .cloneScheduler = none := rfl
        simpa [undergo, last, withTask, DeadlineTask.addScheduler] using
          TaskMove.recounts unarmed rfl (fun none => absurd none last) (fun _ => Nat.succ_pos _)
  | dropScheduler =>
      by_cases last : source.spareSchedulers = 0
      · exact .of_same rfl rfl (by simp [undergo, last])
      · have held : (source.undergo now .dropScheduler).handler.isSome = true →
            0 < source.task.schedulers - 1 := by
          intro present
          have handled := handler_of_undergo present
          simp only [spareSchedulers, handled, if_true] at last
          exact Nat.pos_of_ne_zero last
        have unarmed : source.armed? now .dropScheduler = none := rfl
        simpa [undergo, last, withTask, DeadlineTask.dropScheduler] using
          TaskMove.recounts unarmed rfl (fun none => by rw [none]) held
  | close =>
      exact .recounts rfl rfl (fun _ => rfl)
        fun present => absurd present (by simp [undergo, Source.close])
  | spawn =>
      simp only [undergo, task_work]
      cases stepped : source.task.spawn? with
      | none => exact .stays rfl rfl
      | some next => exact .spawns stepped
  | abandon =>
      simp only [undergo, task_work]
      cases stepped : source.task.abandon? with
      | none => exact .stays rfl rfl
      | some next => exact .abandons stepped
  | receive =>
      simp only [undergo, task_work]
      cases stepped : source.task.receive? with
      | none => exact .stays rfl rfl
      | some next => exact .receives stepped
  | stopAccepting =>
      simp only [undergo, task_work]
      cases stepped : source.task.close? with
      | none => exact .stays rfl rfl
      | some next => exact .stops stepped
  | finish =>
      simp only [undergo, task_work]
      cases stepped : source.task.finish? with
      | none => exact .stays rfl rfl
      | some next => exact .finishes stepped
  | _ => exact .stays rfl rfl

end Source

/-! ## Sound tasks -/

/-- A task knows that nothing more can be armed only when that is so, and it has ended only with
nothing left to hand out. -/
structure DeadlineTask.Sound (task : DeadlineTask) : Prop where
  /-- A task that waits for nothing more has no schedulers and an empty inbox. -/
  closed : task.accepting = false → task.schedulers = 0 ∧ task.inbox = []
  /-- A task that has ended waits for nothing more and has an empty agenda. -/
  ended : task.phase = .finished → task.accepting = false ∧ task.agenda.deadlines = []

namespace DeadlineTask

variable {task next : DeadlineTask} {now : Instant} {fired : List Deadline}

theorem Sound.arm (sound : task.Sound) (held : 0 < task.schedulers) (deadline : Deadline) :
    (task.arm deadline).Sound := by
  have open' : task.accepting = true := by
    cases accepting : task.accepting with
    | true => rfl
    | false => exact absurd (sound.closed accepting).1 (Nat.ne_of_gt held)
  cases phase : task.phase with
  | idle => exact ⟨by simp [DeadlineTask.arm, phase, open'], by simp [DeadlineTask.arm, phase]⟩
  | running => exact ⟨by simp [DeadlineTask.arm, phase, open'], by simp [DeadlineTask.arm, phase]⟩
  | finished => simpa [DeadlineTask.arm, phase] using sound
  | dropped => simpa [DeadlineTask.arm, phase] using sound

theorem Sound.spawn (sound : task.Sound) (spawned : task.spawn? = some next) : next.Sound := by
  rw [eq_of_spawn? spawned]
  exact ⟨sound.closed, fun phase => by cases phase⟩

theorem Sound.abandon (sound : task.Sound) (abandoned : task.abandon? = some next) :
    next.Sound := by
  rw [eq_of_abandon? abandoned]
  exact ⟨fun accepting => ⟨(sound.closed accepting).1, rfl⟩, fun phase => by cases phase⟩

theorem Sound.receive (sound : task.Sound) (received : task.receive? = some next) : next.Sound := by
  rcases eq_of_receive? received with ⟨deadline, rest, inbox, running, rfl⟩
  refine ⟨fun accepting => ?_, fun phase => ?_⟩
  · have empty := (sound.closed accepting).2
    rw [inbox] at empty
    cases empty
  · cases running.symm.trans phase

theorem sound_of_close? (closed : task.close? = some next) : next.Sound := by
  rcases eq_of_close? closed with ⟨running, inbox, schedulers, rfl⟩
  exact ⟨fun _ => ⟨schedulers, inbox⟩, fun phase => by cases running.symm.trans phase⟩

theorem Sound.finish (sound : task.Sound) (finished : task.finish? = some next) : next.Sound := by
  rcases eq_of_finish? finished with ⟨accepting, agenda, rfl⟩
  exact ⟨sound.closed, fun _ => ⟨accepting, agenda⟩⟩

theorem Sound.fire (sound : task.Sound) (handed : task.fire? now = some (fired, next)) :
    next.Sound := by
  rcases eq_of_fire? handed with ⟨running, _, rfl⟩
  exact ⟨sound.closed, fun phase => by cases running.symm.trans phase⟩

theorem Sound.withSchedulers (sound : task.Sound) {count : Nat}
    (exhausted : task.schedulers = 0 → count = 0) :
    ({ task with schedulers := count }).Sound :=
  ⟨fun accepting => ⟨exhausted (sound.closed accepting).1, (sound.closed accepting).2⟩, sound.ended⟩

/-- A started task that has nothing to do has an empty inbox, and its agenda is to come. -/
theorem Sound.later_of_rests (sound : task.Sound) (started : task.Started)
    (rests : task.Rests now) :
    task.inbox = [] ∧ ∀ deadline ∈ task.agenda.deadlines, now < deadline.due := by
  rcases started with running | finished
  · have inbox : task.inbox = [] := by
      cases accepting : task.accepting with
      | false => exact (sound.closed accepting).2
      | true =>
          have received := rests.received
          cases inbox : task.inbox with
          | nil => rfl
          | cons deadline rest => simp [receive?, inbox, running, accepting] at received
    refine ⟨inbox, fun deadline member => ?_⟩
    have fired := rests.fired
    have due := task.agenda.popExpired_fst now
    cases popped : task.agenda.popExpired now with
    | mk handed agenda =>
        rw [popped] at due
        cases handed with
        | cons first rest => simp [fire?, popped, running] at fired
        | nil =>
            have none := List.filter_eq_nil_iff.mp due.symm deadline member
            exact Nat.lt_of_not_le fun early => none (decide_eq_true early)
  · have ended := sound.ended finished
    refine ⟨(sound.closed ended.1).2, fun deadline member => ?_⟩
    rw [ended.2] at member
    cases member

end DeadlineTask

/-- The task of a source is sound, and the side that accepts calls holds one of the schedulers. -/
structure Source.TaskSound (source : Source) : Prop where
  sound : source.task.Sound
  /-- Whoever accepts calls can arm their deadlines. -/
  held : source.handler.isSome = true → 0 < source.task.schedulers

namespace Source

variable {source : Source} {now : Instant}

/-- A new task is sound, and whoever accepts calls holds its one scheduler. -/
theorem taskSound_of_new (new : source.task = {}) : source.TaskSound := by
  refine ⟨⟨?_, ?_⟩, ?_⟩ <;> simp [new]

theorem TaskSound.schedulers_pos (sound : source.TaskSound) {occurrence : Occurrence}
    {deadline : Deadline} (armed : source.armed? now occurrence = some deadline) :
    0 < source.task.schedulers := by
  cases occurrence with
  | accept payload metadata id =>
      rcases Option.bind_eq_some_iff.mp armed with ⟨handler, handled, _⟩
      exact sound.held (by rw [handled]; rfl)
  | arm id =>
      by_cases last : source.task.schedulers = 0
      · simp [armed?, last] at armed
      · exact Nat.pos_of_ne_zero last
  | _ => cases armed

theorem schedulers_arm (task : DeadlineTask) (deadline : Deadline) :
    (task.arm deadline).schedulers = task.schedulers := by
  rw [DeadlineTask.arm]
  split <;> rfl

theorem phase_arm (task : DeadlineTask) (deadline : Deadline) :
    (task.arm deadline).phase = task.phase := by
  rw [DeadlineTask.arm]
  split <;> rfl

theorem TaskMove.sound {occurrence : Occurrence} {task : DeadlineTask} (sound : source.TaskSound)
    (move : source.TaskMove now occurrence task) : task.Sound := by
  cases move with
  | stays => exact sound.sound
  | arms armed => exact sound.sound.arm (sound.schedulers_pos armed) _
  | recounts _ _ exhausted => exact sound.sound.withSchedulers exhausted
  | spawns spawned => exact sound.sound.spawn spawned
  | abandons abandoned => exact sound.sound.abandon abandoned
  | receives received => exact sound.sound.receive received
  | stops closed => exact DeadlineTask.sound_of_close? closed
  | finishes finished => exact sound.sound.finish finished
  | fires handed => exact sound.sound.fire handed

theorem TaskMove.held {occurrence : Occurrence} {task : DeadlineTask}
    (move : source.TaskMove now occurrence task)
    (present : (source.undergo now occurrence).handler.isSome = true)
    (held : 0 < source.task.schedulers) : 0 < task.schedulers := by
  cases move with
  | stays => exact held
  | arms => rwa [schedulers_arm]
  | recounts _ _ _ counted => exact counted present
  | spawns spawned => rwa [DeadlineTask.eq_of_spawn? spawned]
  | abandons abandoned => rwa [DeadlineTask.eq_of_abandon? abandoned]
  | receives received =>
      rcases DeadlineTask.eq_of_receive? received with ⟨_, _, _, _, rfl⟩
      exact held
  | stops closed =>
      rcases DeadlineTask.eq_of_close? closed with ⟨_, _, _, rfl⟩
      exact held
  | finishes finished =>
      rcases DeadlineTask.eq_of_finish? finished with ⟨_, _, rfl⟩
      exact held
  | fires handed =>
      rcases DeadlineTask.eq_of_fire? handed with ⟨_, _, rfl⟩
      exact held

theorem TaskSound.undergo (sound : source.TaskSound) (now : Instant) (occurrence : Occurrence) :
    (source.undergo now occurrence).TaskSound where
  sound := (source.taskMove_undergo now occurrence).sound sound
  held present := (source.taskMove_undergo now occurrence).held present
    (sound.held (handler_of_undergo present))

/-- A task that was started stays started. -/
theorem TaskMove.started {occurrence : Occurrence} {task : DeadlineTask}
    (move : source.TaskMove now occurrence task) (started : source.task.Started) :
    task.Started := by
  cases move with
  | stays => exact started
  | arms => simpa [DeadlineTask.Started, phase_arm] using started
  | recounts => exact started
  | spawns spawned => exact Or.inl (by rw [DeadlineTask.eq_of_spawn? spawned])
  | abandons abandoned =>
      rcases started with phase | phase <;> simp [DeadlineTask.abandon?, phase] at abandoned
  | receives received =>
      rcases DeadlineTask.eq_of_receive? received with ⟨_, _, _, _, rfl⟩
      exact started
  | stops closed =>
      rcases DeadlineTask.eq_of_close? closed with ⟨_, _, _, rfl⟩
      exact started
  | finishes finished =>
      rcases DeadlineTask.eq_of_finish? finished with ⟨_, _, rfl⟩
      exact Or.inr rfl
  | fires handed =>
      rcases DeadlineTask.eq_of_fire? handed with ⟨_, _, rfl⟩
      exact started

/-- A step of the task itself changes nothing about its schedulers. -/
theorem TaskMove.schedulers {occurrence : Occurrence} {task : DeadlineTask}
    (move : source.TaskMove now occurrence task) (step : occurrence.isStep = true) :
    task.schedulers = source.task.schedulers := by
  cases move with
  | stays => rfl
  | arms => exact schedulers_arm _ _
  | recounts _ foreign => cases step.symm.trans foreign
  | spawns spawned => rw [DeadlineTask.eq_of_spawn? spawned]
  | abandons abandoned => rw [DeadlineTask.eq_of_abandon? abandoned]
  | receives received =>
      rcases DeadlineTask.eq_of_receive? received with ⟨_, _, _, _, rfl⟩
      rfl
  | stops closed =>
      rcases DeadlineTask.eq_of_close? closed with ⟨_, _, _, rfl⟩
      rfl
  | finishes finished =>
      rcases DeadlineTask.eq_of_finish? finished with ⟨_, _, rfl⟩
      rfl
  | fires handed =>
      rcases DeadlineTask.eq_of_fire? handed with ⟨_, _, rfl⟩
      rfl

/-- A task that was given up stays given up. -/
theorem TaskMove.dropped {occurrence : Occurrence} {task : DeadlineTask}
    (move : source.TaskMove now occurrence task) (dropped : source.task.phase = .dropped) :
    task.phase = .dropped := by
  cases move with
  | stays => exact dropped
  | arms => rwa [phase_arm]
  | recounts => exact dropped
  | spawns spawned => simp [DeadlineTask.spawn?, dropped] at spawned
  | abandons abandoned => rw [DeadlineTask.eq_of_abandon? abandoned]
  | receives received =>
      rcases DeadlineTask.eq_of_receive? received with ⟨_, _, _, running, _⟩
      cases dropped.symm.trans running
  | stops closed => cases dropped.symm.trans (DeadlineTask.eq_of_close? closed).1
  | finishes finished => simp [DeadlineTask.finish?, dropped] at finished
  | fires handed => cases dropped.symm.trans (DeadlineTask.eq_of_fire? handed).1

/-- A task is given up by hand only. -/
theorem TaskMove.dropped_or_abandon {occurrence : Occurrence} {task : DeadlineTask}
    (move : source.TaskMove now occurrence task) (dropped : task.phase = .dropped) :
    source.task.phase = .dropped ∨ occurrence = .abandon := by
  cases move with
  | stays => exact Or.inl dropped
  | arms => exact Or.inl ((phase_arm _ _).symm.trans dropped)
  | recounts => exact Or.inl dropped
  | spawns spawned =>
      rw [DeadlineTask.eq_of_spawn? spawned] at dropped
      cases dropped
  | abandons => exact Or.inr rfl
  | receives received =>
      rcases DeadlineTask.eq_of_receive? received with ⟨_, _, _, _, rfl⟩
      exact Or.inl dropped
  | stops closed =>
      rcases DeadlineTask.eq_of_close? closed with ⟨_, _, _, rfl⟩
      exact Or.inl dropped
  | finishes finished =>
      rcases DeadlineTask.eq_of_finish? finished with ⟨_, _, rfl⟩
      cases dropped
  | fires handed =>
      rcases DeadlineTask.eq_of_fire? handed with ⟨_, _, rfl⟩
      exact Or.inl dropped

/-- As long as the task is not given up, what is outstanding before or armed now is handed out now
or outstanding afterwards. -/
theorem TaskMove.accounts {occurrence : Occurrence} {task : DeadlineTask} (sound : source.TaskSound)
    (move : source.TaskMove now occurrence task) (kept : task.phase ≠ .dropped) :
    (source.task.outstanding ++ (source.armed? now occurrence).toList).Perm
      (source.fired now occurrence ++ task.outstanding) := by
  have unchanged : source.task.outstanding ++ [] = [] ++ source.task.outstanding :=
    List.append_nil _
  have alive := mt move.dropped kept
  cases move with
  | stays unarmed unfired =>
      rw [unarmed, unfired]
      exact .of_eq unchanged
  | arms armed =>
      have held := sound.schedulers_pos armed
      rw [armed, fired_of_foreign (foreign_of_armed armed)]
      refine (DeadlineTask.outstanding_arm _ ?_).symm
      cases phase : source.task.phase with
      | idle => exact Or.inl rfl
      | running => exact Or.inr rfl
      | dropped => exact absurd phase alive
      | finished =>
          have accepting := (sound.sound.ended phase).1
          exact absurd (sound.sound.closed accepting).1 (Nat.ne_of_gt held)
  | recounts unarmed foreign =>
      rw [unarmed, fired_of_foreign foreign]
      exact .of_eq unchanged
  | spawns spawned =>
      rw [DeadlineTask.eq_of_spawn? spawned]
      exact .of_eq unchanged
  | abandons abandoned => exact absurd (by rw [DeadlineTask.eq_of_abandon? abandoned]) kept
  | receives received =>
      exact (List.Perm.of_eq (List.append_nil _)).trans (DeadlineTask.outstanding_receive received)
  | stops closed =>
      rcases DeadlineTask.eq_of_close? closed with ⟨_, _, _, rfl⟩
      exact .of_eq unchanged
  | finishes finished =>
      rcases DeadlineTask.eq_of_finish? finished with ⟨_, _, rfl⟩
      exact .of_eq unchanged
  | fires handed =>
      exact (List.Perm.of_eq (List.append_nil _)).trans (DeadlineTask.outstanding_fire handed)

theorem due_of_handedOut {deadline : Deadline} (handed : deadline ∈ source.handedOut now) :
    deadline.due ≤ now := by
  cases fired : source.task.fire? now with
  | none => simp [handedOut, fired] at handed
  | some result =>
      simp only [handedOut, fired, Option.map_some, Option.getD_some] at handed
      rw [(DeadlineTask.eq_of_fire? fired).2.1, List.mem_filter] at handed
      exact of_decide_eq_true handed.2

end Source

end Rendezvous
