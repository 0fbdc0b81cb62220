import Rendezvous.Proofs.Deadlines.Accounting
import Rendezvous.Proofs.Ledger.Tracking

/-!
# Where a deadline task comes to rest

While deadlines wait in the inbox and others on the agenda are due, the task may do either first,
and whoever arms more deadlines may come in between. None of this matters for where the task comes
to rest: `Snapshot.settled` does not change when the task takes a step, and it follows whatever else
happens (`Snapshot.settled_undergoAll`).

The argument compares a snapshot with one whose task is ahead of it, because it has handed out some
of the due deadlines already. Both settle alike, since deadlines can be handed out in any order.
-/

namespace Rendezvous

/-! ## Deadlines in any order -/

namespace Ledger

theorem post_closed_of_find? {ledger : Ledger} {id : CorrelationId} {ticket : Ticket}
    (found : ledger.find? id = some ticket) (closing : Closing) :
    ledger.post (.closed id closing) =
      ⟨⟨ledger.pending.entries.erase id,
          closing.count (ledger.listens ticket) ledger.pending.tally⟩,
        ledger.calls.modify ticket (Alteration.resolve closing.outcome).apply⟩ := by
  have held : ledger.pending.entries.find? id = some ticket := found
  simp [post, Pending.take?, held, change]

theorem countTimeout_comm (tally : Tally) (first second : Bool) :
    (tally.countTimeout first).countTimeout second =
      (tally.countTimeout second).countTimeout first := by
  cases first <;> cases second <;> rfl

theorem modify_comm (calls : List Call) (first second : Ticket) (change : Call → Call) :
    (calls.modify first change).modify second change =
      (calls.modify second change).modify first change := by
  by_cases same : first = second
  · rw [same]
  · exact List.modify_modify_ne _ _ _ same

/-- Two deadlines can be handed out in either order. -/
theorem post_expired_comm (ledger : Ledger) (first second : CorrelationId) :
    (ledger.post (.closed first .expired)).post (.closed second .expired) =
      (ledger.post (.closed second .expired)).post (.closed first .expired) := by
  by_cases same : first = second
  · rw [same]
  · have different : ¬second = first := fun equal => same equal.symm
    have absent : ∀ {ledger : Ledger} {id : CorrelationId}, ledger.find? id = none →
        ledger.post (.closed id .expired) = ledger := by
      intro ledger id absent
      have held : ledger.pending.entries.find? id = none := absent
      simp [post, Pending.take?, held]
    have secondAfter : (ledger.post (.closed first .expired)).find? second =
        ledger.find? second := by
      rw [find?_closed, if_neg different]
    have firstAfter : (ledger.post (.closed second .expired)).find? first =
        ledger.find? first := by
      rw [find?_closed, if_neg same]
    cases one : ledger.find? first with
    | none => rw [absent one, absent (firstAfter.trans one)]
    | some ticket =>
        cases another : ledger.find? second with
        | none => rw [absent another, absent (secondAfter.trans another)]
        | some other =>
            rw [post_closed_of_find? (secondAfter.trans another),
              post_closed_of_find? (firstAfter.trans one), listens_closed, listens_closed,
              post_closed_of_find? one, post_closed_of_find? another]
            simp only [Closing.count, countTimeout_comm _ (ledger.listens ticket),
              modify_comm _ ticket, Directory.erase_comm _ second]

theorem postAll_expired_perm (ledger : Ledger) {left right : List Deadline}
    (same : left.Perm right) :
    ledger.postAll (left.map fun deadline => .closed deadline.id .expired) =
      ledger.postAll (right.map fun deadline => .closed deadline.id .expired) := by
  refine (same.map _).foldl_eq' ?_ ledger
  intro first firstMember second secondMember ledger
  rcases List.mem_map.mp firstMember with ⟨earlier, _, rfl⟩
  rcases List.mem_map.mp secondMember with ⟨later, _, rfl⟩
  exact post_expired_comm ledger earlier.id later.id

end Ledger

namespace Source

theorem expireAll_perm (source : Source) {left right : List Deadline} (same : left.Perm right) :
    source.expireAll left = source.expireAll right := by
  rw [expireAll_eq, expireAll_eq, Ledger.postAll_expired_perm _ same]

theorem expireAll_append (source : Source) (first second : List Deadline) :
    source.expireAll (first ++ second) = (source.expireAll first).expireAll second :=
  List.foldl_append

theorem expireAll_withTask (source : Source) (task : DeadlineTask) (deadlines : List Deadline) :
    (source.withTask task).expireAll deadlines = (source.expireAll deadlines).withTask task := by
  rw [expireAll_eq, expireAll_eq]
  rfl

end Source

/-! ## What settling does -/

namespace DeadlineTask

/-- All outstanding deadlines on one agenda. -/
def gathered (task : DeadlineTask) : Agenda :=
  task.inbox.foldl Agenda.push task.agenda

/-- A started task that rests with some schedulers left and some deadlines to come. -/
def resting (schedulers : Nat) (agenda : Agenda) : DeadlineTask where
  phase := if schedulers = 0 ∧ agenda.deadlines = [] then .finished else .running
  schedulers := schedulers
  accepting := decide (schedulers ≠ 0)
  agenda := agenda

variable {task : DeadlineTask} {now : Instant}

theorem pushAll_perm (agenda : Agenda) (deadlines : List Deadline) :
    (deadlines.foldl Agenda.push agenda).deadlines.Perm (deadlines ++ agenda.deadlines) := by
  induction deadlines generalizing agenda with
  | nil => exact List.Perm.refl _
  | cons deadline rest ih =>
      refine (ih (agenda.push deadline)).trans ?_
      exact ((agenda.push_perm deadline).append_left rest).trans List.perm_middle

theorem gathered_perm (task : DeadlineTask) : task.gathered.deadlines.Perm task.outstanding :=
  pushAll_perm task.agenda task.inbox

theorem popExpired_of_nil {agenda : Agenda} (none : (agenda.popExpired now).1 = []) :
    (agenda.popExpired now).2 = agenda := by
  have parts : (agenda.popExpired now).1 ++ (agenda.popExpired now).2.deadlines =
      agenda.deadlines := List.takeWhile_append_dropWhile
  rw [none, List.nil_append] at parts
  exact Agenda.eq_of_perm (.of_eq parts)

/-- A task that rests stays as it is when it settles. -/
theorem settle_of_rests (rests : task.Rests now) : task.settle now = ([], task) := by
  have received : task.receiveAll = task := by
    rw [receiveAll]
    split
    · rename_i open'
      cases inbox : task.inbox with
      | nil => cases task; simp_all
      | cons deadline rest =>
          have none := rests.received
          simp [receive?, inbox, open'] at none
    · rfl
  simp [settle, received, rests.fired, rests.closed, rests.finished]

/-- A task that runs not can do nothing. -/
theorem rests_of_not_running (idle : task.phase ≠ .running) : task.Rests now where
  received := by
    rw [receive?]
    split <;> simp [idle]
  fired := by
    rw [fire?]
    split <;> simp [idle]
  closed := by simp [close?, idle]
  finished := by simp [finish?, idle]

theorem receiveAll_eq (sound : task.Sound) (running : task.phase = .running) :
    task.receiveAll = { task with inbox := [], agenda := task.gathered } := by
  cases accepting : task.accepting with
  | true => simp [receiveAll, running, accepting, gathered]
  | false =>
      have inbox := (sound.closed accepting).2
      cases task
      simp_all [receiveAll, gathered]

theorem getD_fire? (running : task.phase = .running) (now : Instant) :
    (task.fire? now).getD ([], task) =
      ((task.agenda.popExpired now).1, { task with agenda := (task.agenda.popExpired now).2 }) := by
  cases popped : task.agenda.popExpired now with
  | mk due later =>
      cases due with
      | nil =>
          have same : later = task.agenda := by
            have none : (task.agenda.popExpired now).1 = [] := by rw [popped]
            rw [← popExpired_of_nil none, popped]
          rw [fire?, popped, same]
          rfl
      | cons deadline rest => simp [fire?, popped, running]

theorem getD_close? (running : task.phase = .running) (inbox : task.inbox = [])
    (closed : task.accepting = false → task.schedulers = 0) :
    task.close?.getD task = { task with accepting := decide (task.schedulers ≠ 0) } := by
  cases accepting : task.accepting with
  | false =>
      have last := closed accepting
      cases task
      simp_all [close?]
  | true =>
      by_cases last : task.schedulers = 0
      · simp [close?, running, accepting, inbox, last]
      · cases task
        simp_all [close?]

theorem getD_finish? (running : task.phase = .running) :
    task.finish?.getD task =
      { task with
        phase := if task.accepting = false ∧ task.agenda.deadlines = [] then .finished
          else .running } := by
  by_cases exhausted : task.accepting = false ∧ task.agenda.deadlines = []
  · simp [finish?, running, exhausted, Agenda.isEmpty]
  · have none : task.finish? = none := by
      rw [finish?, if_neg]
      rintro ⟨_, accepting, agenda⟩
      exact exhausted ⟨by simpa using accepting, List.isEmpty_iff.mp agenda⟩
    rw [none, if_neg exhausted, ← running]
    rfl

/-- A started task hands out all that is due when it settles, and then rests. -/
theorem settle_eq (sound : task.Sound) (started : task.Started) (now : Instant) :
    task.settle now = ((task.gathered.popExpired now).1,
      resting task.schedulers (task.gathered.popExpired now).2) := by
  rcases started with running | finished
  · have closed := fun accepting => (sound.closed accepting).1
    let taken : DeadlineTask := { task with inbox := [], agenda := task.gathered }
    let handed : DeadlineTask := { taken with agenda := (task.gathered.popExpired now).2 }
    let told : DeadlineTask := { handed with accepting := decide (task.schedulers ≠ 0) }
    have takenRuns : taken.phase = .running := running
    have handedRuns : handed.phase = .running := running
    have toldRuns : told.phase = .running := running
    have fires : (taken.fire? now).getD ([], taken) =
        ((task.gathered.popExpired now).1, handed) := getD_fire? takenRuns now
    have closes : handed.close?.getD handed = told := getD_close? handedRuns rfl closed
    have ends := getD_finish? toldRuns
    simp only [settle, receiveAll_eq sound running]
    rw [fires, closes, ends]
    simp [resting, told, handed, taken]
  · have ended := sound.ended finished
    have closed := sound.closed ended.1
    have agenda : task.agenda = {} := Agenda.eq_of_perm (.of_eq ended.2)
    have same : task = ⟨.finished, 0, false, [], {}⟩ := by
      cases task
      simp_all
    rw [settle_of_rests (rests_of_not_running (by simp [finished])), same]
    rfl

theorem sound_resting (schedulers : Nat) (agenda : Agenda) : (resting schedulers agenda).Sound := by
  refine ⟨fun accepting => ?_, fun phase => ?_⟩
  · exact ⟨by simpa [resting] using accepting, rfl⟩
  · rw [resting] at phase
    split at phase
    · exact ⟨by simp [resting, ‹_ ∧ _›], (‹_ ∧ _›).2⟩
    · cases phase

theorem started_resting (schedulers : Nat) (agenda : Agenda) :
    (resting schedulers agenda).Started := by
  by_cases exhausted : schedulers = 0 ∧ agenda.deadlines = []
  · exact Or.inr (if_pos exhausted)
  · exact Or.inl (if_neg exhausted)

end DeadlineTask

/-- An occurrence concerns the clock, the schedulers or the start of the task, and neither the table
nor a call. -/
def Occurrence.isTiming : Occurrence → Bool
  | .pass _ | .arm _ | .spawn | .abandon | .cloneScheduler | .dropScheduler | .close => true
  | _ => false

namespace Snapshot

/-- The snapshot once the deadline task has done all that it can. -/
def settled (snapshot : Snapshot) : Snapshot :=
  { snapshot with source := snapshot.source.settle snapshot.now }

variable {first second snapshot : Snapshot} {handed : List Deadline}

theorem settled_of_rests (rests : snapshot.source.task.Rests snapshot.now) :
    snapshot.settled = snapshot := by
  rw [settled, Source.settle, DeadlineTask.settle_of_rests rests]
  rfl

/-! ## One task ahead of another -/

/-- The second snapshot is the first one but for its task, which has handed out some deadlines that
are due. What it has not handed out is outstanding, as for the other task. -/
structure Ahead (handed : List Deadline) (first second : Snapshot) : Prop where
  /-- It is the same moment. -/
  now : second.now = first.now
  /-- The sources differ by what was handed out. -/
  source : second.source = (first.source.expireAll handed).withTask second.source.task
  /-- The same schedulers are left. -/
  schedulers : second.source.task.schedulers = first.source.task.schedulers
  /-- The other deadlines are outstanding. -/
  outstanding : first.source.task.outstanding.Perm (handed ++ second.source.task.outstanding)
  /-- What was handed out is due. -/
  due : ∀ deadline ∈ handed, deadline.due ≤ first.now

theorem settle_of_started (sound : snapshot.source.TaskSound)
    (started : snapshot.source.task.Started) :
    snapshot.source.settle snapshot.now =
      (snapshot.source.expireAll (snapshot.source.task.gathered.popExpired snapshot.now).1).withTask
        (.resting snapshot.source.task.schedulers
          (snapshot.source.task.gathered.popExpired snapshot.now).2) := by
  rw [Source.settle, DeadlineTask.settle_eq sound.sound started]
  exact Source.expireAll_withTask _ _ _

/-- A snapshot and one that is ahead of it settle alike. -/
theorem Ahead.settled_eq (ahead : Ahead handed first second) (soundFirst : first.source.TaskSound)
    (soundSecond : second.source.TaskSound) (startedFirst : first.source.task.Started)
    (startedSecond : second.source.task.Started) : first.settled = second.settled := by
  have gathered : first.source.task.gathered.deadlines.Perm
      (handed ++ second.source.task.gathered.deadlines) :=
    (DeadlineTask.gathered_perm _).trans
      (ahead.outstanding.trans ((DeadlineTask.gathered_perm _).symm.append_left handed))
  have due : (first.source.task.gathered.popExpired first.now).1.Perm
      (handed ++ (second.source.task.gathered.popExpired first.now).1) := by
    have all : handed.filter (fun deadline => decide (deadline.due ≤ first.now)) = handed :=
      List.filter_eq_self.mpr fun deadline member => decide_eq_true (ahead.due deadline member)
    have parts := gathered.filter fun deadline => decide (deadline.due ≤ first.now)
    rw [Agenda.popExpired_fst, Agenda.popExpired_fst]
    rwa [List.filter_append, all] at parts
  have later : (first.source.task.gathered.popExpired first.now).2 =
      (second.source.task.gathered.popExpired first.now).2 := by
    have none : handed.filter (fun deadline => decide (first.now < deadline.due)) = [] := by
      rw [List.filter_eq_nil_iff]
      intro deadline member late
      exact absurd (ahead.due deadline member) (Nat.not_le.mpr (of_decide_eq_true late))
    have parts := gathered.filter fun deadline => decide (first.now < deadline.due)
    refine Agenda.eq_of_perm ?_
    rw [Agenda.popExpired_snd, Agenda.popExpired_snd]
    rwa [List.filter_append, none] at parts
  have same : ∀ (source : Source) (deadlines : List Deadline) (task other : DeadlineTask),
      ((source.withTask task).expireAll deadlines).withTask other =
        (source.expireAll deadlines).withTask other := by
    intro source deadlines task other
    rw [Source.expireAll_withTask]
    rfl
  rw [settled, settled, settle_of_started soundFirst startedFirst,
    settle_of_started soundSecond startedSecond, ahead.now, ← later, ahead.schedulers,
    Source.expireAll_perm _ due, Source.expireAll_append, ahead.source, same]

theorem started_undergo (started : snapshot.source.task.Started) (occurrence : Occurrence) :
    (snapshot.undergo occurrence).source.task.Started :=
  (snapshot.source.taskMove_undergo snapshot.now occurrence).started started

theorem work_eq (source : Source) (step? : DeadlineTask → Option DeadlineTask) :
    source.work step? = source.withTask (source.work step?).task := by
  rw [Source.work]
  cases step? source.task <;> rfl

theorem undergo_step_eq (source : Source) (now : Instant) {occurrence : Occurrence}
    (step : occurrence.isStep = true) :
    source.undergo now occurrence =
      (source.expireAll (source.fired now occurrence)).withTask
        (source.undergo now occurrence).task := by
  cases occurrence with
  | receive => exact work_eq source _
  | stopAccepting => exact work_eq source _
  | finish => exact work_eq source _
  | fire =>
      cases fired : source.task.fire? now with
      | none => simp [Source.undergo, Source.fire?, Source.fired, Source.handedOut, fired]; rfl
      | some result =>
          simp [Source.undergo, Source.fire?, Source.fired, Source.handedOut, fired,
            Source.expireAll_withTask]
          rfl
  | _ => cases step

theorem armed?_of_step {source : Source} {now : Instant} {occurrence : Occurrence}
    (step : occurrence.isStep = true) : source.armed? now occurrence = none := by
  cases armed : source.armed? now occurrence with
  | none => rfl
  | some deadline => cases step.symm.trans (Source.foreign_of_armed armed)

/-- A step of the task takes it ahead. -/
theorem ahead_undergo_step {occurrence : Occurrence} (step : occurrence.isStep = true)
    (sound : snapshot.source.TaskSound) (started : snapshot.source.task.Started) :
    Ahead (snapshot.source.fired snapshot.now occurrence) snapshot
      (snapshot.undergo occurrence) where
  now := by
    cases occurrence with
    | pass duration => cases step
    | _ => rfl
  source := undergo_step_eq snapshot.source snapshot.now step
  schedulers := (snapshot.source.taskMove_undergo snapshot.now occurrence).schedulers step
  outstanding := by
    have kept : (snapshot.undergo occurrence).source.task.phase ≠ .dropped := by
      rcases started_undergo started occurrence with phase | phase <;> simp [phase]
    have accounts := (snapshot.source.taskMove_undergo snapshot.now occurrence).accounts sound kept
    rwa [armed?_of_step step, Option.toList_none, List.append_nil] at accounts
  due := by
    intro deadline fired
    cases occurrence with
    | fire => exact Source.due_of_handedOut fired
    | _ => cases fired

/-- Settling takes the task ahead. -/
theorem ahead_settled (sound : snapshot.source.TaskSound)
    (started : snapshot.source.task.Started) :
    Ahead (snapshot.source.task.gathered.popExpired snapshot.now).1 snapshot snapshot.settled := by
  have same := settle_of_started sound started
  refine ⟨rfl, ?_, ?_, ?_, ?_⟩
  · rw [settled, same]
    rfl
  · rw [settled, same]
    rfl
  · have parts : (snapshot.source.task.gathered.popExpired snapshot.now).1 ++
        (snapshot.source.task.gathered.popExpired snapshot.now).2.deadlines =
          snapshot.source.task.gathered.deadlines := List.takeWhile_append_dropWhile
    rw [settled, same]
    change List.Perm _ (_ ++ (snapshot.source.task.gathered.popExpired snapshot.now).2.deadlines)
    rw [parts]
    exact (DeadlineTask.gathered_perm _).symm
  · intro deadline member
    rw [Agenda.popExpired_fst, List.mem_filter] at member
    exact of_decide_eq_true member.2

theorem taskSound_settled (sound : snapshot.source.TaskSound) :
    snapshot.settled.source.TaskSound := by
  by_cases started : snapshot.source.task.Started
  · have ahead := ahead_settled sound started
    refine ⟨?_, ?_⟩
    · rw [settled, settle_of_started sound started]
      exact DeadlineTask.sound_resting _ _
    · rw [ahead.schedulers, ahead.source]
      intro present
      exact sound.held (by rwa [Source.expireAll_eq] at present)
  · rwa [settled_of_rests (DeadlineTask.rests_of_not_running fun running =>
      started (Or.inl running))]

theorem started_settled (sound : snapshot.source.TaskSound)
    (started : snapshot.source.task.Started) : snapshot.settled.source.task.Started := by
  rw [settled, settle_of_started sound started]
  exact DeadlineTask.started_resting _ _

/-- How many schedulers are left after something that concerns neither the table nor a call. -/
def schedulersAfter (source : Source) : Occurrence → Nat
  | .cloneScheduler => if source.task.schedulers = 0 then 0 else source.task.schedulers + 1
  | .dropScheduler =>
      if source.spareSchedulers = 0 then source.task.schedulers else source.task.schedulers - 1
  | .close => 0
  | _ => source.task.schedulers

theorem schedulers_undergo_timing (source : Source) (now : Instant) {occurrence : Occurrence}
    (timing : occurrence.isTiming = true) :
    (source.undergo now occurrence).task.schedulers = schedulersAfter source occurrence := by
  cases occurrence with
  | pass duration => rfl
  | arm id =>
      by_cases last : source.task.schedulers = 0
      · simp [Source.undergo, schedulersAfter, last]
      · simp [Source.undergo, schedulersAfter, last, Source.arm, Source.schedulers_arm]
  | spawn =>
      cases spawned : source.task.spawn? with
      | none => simp [Source.undergo, Source.work, schedulersAfter, spawned]
      | some next =>
          simp [Source.undergo, Source.work, schedulersAfter, spawned, Source.withTask,
            DeadlineTask.eq_of_spawn? spawned]
  | abandon =>
      cases abandoned : source.task.abandon? with
      | none => simp [Source.undergo, Source.work, schedulersAfter, abandoned]
      | some next =>
          simp [Source.undergo, Source.work, schedulersAfter, abandoned, Source.withTask,
            DeadlineTask.eq_of_abandon? abandoned]
  | cloneScheduler =>
      by_cases last : source.task.schedulers = 0 <;>
        simp [Source.undergo, schedulersAfter, last, Source.withTask, DeadlineTask.addScheduler]
  | dropScheduler =>
      by_cases last : source.spareSchedulers = 0 <;>
        simp [Source.undergo, schedulersAfter, last, Source.withTask, DeadlineTask.dropScheduler]
  | close => rfl
  | _ => cases timing

theorem armed?_congr {source other : Source} (timeout : other.timeout = source.timeout)
    (schedulers : other.task.schedulers = source.task.schedulers) (now : Instant)
    {occurrence : Occurrence} (timing : occurrence.isTiming = true) :
    other.armed? now occurrence = source.armed? now occurrence := by
  cases occurrence with
  | accept payload metadata id => cases timing
  | arm id => simp [Source.armed?, timeout, schedulers]
  | _ => rfl

/-- The source without its side that accepts calls, if that is what happens. -/
def leaving (source : Source) : Occurrence → Source
  | .close => { source with handler := none }
  | _ => source

theorem undergo_timing_eq (source : Source) (now : Instant) {occurrence : Occurrence}
    (timing : occurrence.isTiming = true) :
    source.undergo now occurrence =
      (leaving source occurrence).withTask (source.undergo now occurrence).task := by
  cases occurrence with
  | pass duration => rfl
  | arm id => by_cases last : source.task.schedulers = 0 <;> simp [Source.undergo, last] <;> rfl
  | spawn => exact work_eq source _
  | abandon => exact work_eq source _
  | cloneScheduler =>
      by_cases last : source.task.schedulers = 0 <;> simp [Source.undergo, last] <;> rfl
  | dropScheduler =>
      by_cases last : source.spareSchedulers = 0 <;> simp [Source.undergo, last] <;> rfl
  | close => rfl
  | _ => cases timing

theorem ledger_undergo_timing (source : Source) (now : Instant) {occurrence : Occurrence}
    (timing : occurrence.isTiming = true) :
    (source.undergo now occurrence).ledger = source.ledger := by
  rw [Source.ledger_undergo]
  cases occurrence with
  | pass => rfl
  | arm => rfl
  | spawn => rfl
  | abandon => rfl
  | cloneScheduler => rfl
  | dropScheduler => rfl
  | close => rfl
  | _ => cases timing

theorem foreign_of_timing {occurrence : Occurrence} (timing : occurrence.isTiming = true) :
    occurrence.isStep = false := by
  cases occurrence with
  | receive => cases timing
  | fire => cases timing
  | stopAccepting => cases timing
  | finish => cases timing
  | _ => rfl

/-- A task stays ahead whatever happens that concerns neither the table nor a call. -/
theorem Ahead.undergo (ahead : Ahead handed first second) (soundFirst : first.source.TaskSound)
    (soundSecond : second.source.TaskSound) (startedFirst : first.source.task.Started)
    (startedSecond : second.source.task.Started) {occurrence : Occurrence}
    (timing : occurrence.isTiming = true) :
    Ahead handed (first.undergo occurrence) (second.undergo occurrence) := by
  have source := ahead.source
  rw [Source.expireAll_eq] at source
  have timeout : second.source.timeout = first.source.timeout := by rw [source]; rfl
  have handler : second.source.handler = first.source.handler := by rw [source]; rfl
  have armed := armed?_congr timeout ahead.schedulers first.now timing
  have kept : ∀ snapshot : Snapshot, snapshot.source.task.Started →
      (snapshot.undergo occurrence).source.task.phase ≠ .dropped := by
    intro snapshot started
    rcases started_undergo started occurrence with phase | phase <;> simp [phase]
  have quiet : ∀ snapshot : Snapshot, snapshot.source.fired snapshot.now occurrence = [] :=
    fun _ => Source.fired_of_foreign (foreign_of_timing timing)
  refine ⟨?_, ?_, ?_, ?_, ?_⟩
  · cases occurrence with
    | pass duration => exact congrArg (· + duration.nanoseconds) ahead.now
    | _ => exact ahead.now
  · change second.source.undergo second.now occurrence =
      ((first.source.undergo first.now occurrence).expireAll handed).withTask
        (second.source.undergo second.now occurrence).task
    rw [Source.expireAll_eq, ledger_undergo_timing _ _ timing,
      undergo_timing_eq first.source _ timing, undergo_timing_eq second.source _ timing]
    generalize (second.source.undergo second.now occurrence).task = task
    rw [source]
    cases occurrence <;> rfl
  · change (second.source.undergo second.now occurrence).task.schedulers =
      (first.source.undergo first.now occurrence).task.schedulers
    rw [schedulers_undergo_timing _ _ timing, schedulers_undergo_timing _ _ timing]
    have spare : second.source.spareSchedulers = first.source.spareSchedulers := by
      rw [Source.spareSchedulers, Source.spareSchedulers, handler, ahead.schedulers]
    cases occurrence <;> simp [schedulersAfter, ahead.schedulers, spare]
  · have before := (first.source.taskMove_undergo first.now occurrence).accounts soundFirst
      (kept first startedFirst)
    have after := (second.source.taskMove_undergo second.now occurrence).accounts soundSecond
      (kept second startedSecond)
    rw [quiet first, List.nil_append] at before
    rw [quiet second, List.nil_append, ahead.now, armed] at after
    refine before.symm.trans ((ahead.outstanding.append_right _).trans ?_)
    rw [List.append_assoc]
    have same : (second.undergo occurrence).source.task =
        (second.source.undergo first.now occurrence).task := by
      rw [← ahead.now]
      rfl
    rw [same]
    exact after.append_left handed
  · intro deadline member
    exact Nat.le_trans (ahead.due deadline member) (first.now_le_undergo occurrence)

/-! ## Runs -/

theorem settled_undergo_step (sound : snapshot.source.TaskSound) {occurrence : Occurrence}
    (step : occurrence.isStep = true) :
    (snapshot.undergo occurrence).settled = snapshot.settled := by
  by_cases started : snapshot.source.task.Started
  · exact ((ahead_undergo_step step sound started).settled_eq sound
      (sound.undergo snapshot.now occurrence) started (started_undergo started occurrence)).symm
  · have rests : snapshot.source.task.Rests snapshot.now :=
      DeadlineTask.rests_of_not_running fun running => started (Or.inl running)
    have same : snapshot.undergo occurrence = snapshot := by
      cases occurrence with
      | receive => simp [Snapshot.undergo, after, Source.undergo, Source.work, rests.received]
      | fire => simp [Snapshot.undergo, after, Source.undergo, Source.fire?, rests.fired]
      | stopAccepting => simp [Snapshot.undergo, after, Source.undergo, Source.work, rests.closed]
      | finish => simp [Snapshot.undergo, after, Source.undergo, Source.work, rests.finished]
      | _ => cases step
    rw [same]

/-- Whether the task has settled before something else happens makes no difference for where it
settles afterwards, if what happens concerns neither the table nor a call. -/
theorem settled_undergo_timing (sound : snapshot.source.TaskSound) {occurrence : Occurrence}
    (timing : occurrence.isTiming = true) :
    (snapshot.settled.undergo occurrence).settled = (snapshot.undergo occurrence).settled := by
  by_cases started : snapshot.source.task.Started
  · have soundAfter := taskSound_settled sound
    have startedAfter := started_settled sound started
    exact (((ahead_settled sound started).undergo sound soundAfter started startedAfter
      timing).settled_eq (sound.undergo snapshot.now occurrence)
        (soundAfter.undergo snapshot.now occurrence) (started_undergo started occurrence)
        (started_undergo startedAfter occurrence)).symm
  · rw [settled_of_rests (DeadlineTask.rests_of_not_running fun running =>
      started (Or.inl running))]

/-- In an orderly run the table and the calls are left alone while the deadline task has something
to do. Deadlines may be armed and time may pass at any moment. -/
def Orderly (snapshot : Snapshot) : List Occurrence → Prop
  | [] => True
  | occurrence :: rest =>
      (occurrence.isStep = true ∨ occurrence.isTiming = true ∨
          snapshot.source.task.Rests snapshot.now) ∧
        (snapshot.undergo occurrence).Orderly rest

/-- The snapshot after a run in which the task settles whenever something else has happened. -/
def settledAfter (snapshot : Snapshot) (occurrences : List Occurrence) : Snapshot :=
  occurrences.foldl (fun snapshot occurrence => (snapshot.undergo occurrence).settled)
    snapshot.settled

/-- Where the task settles after an orderly run does not depend on the steps that it took. -/
theorem settled_undergoAll (sound : snapshot.source.TaskSound) {run : List Occurrence}
    (orderly : snapshot.Orderly run) :
    (snapshot.undergoAll run).settled =
      snapshot.settledAfter (run.filter fun occurrence => !occurrence.isStep) := by
  induction run generalizing snapshot with
  | nil => rfl
  | cons occurrence rest ih =>
      have soundAfter : (snapshot.undergo occurrence).source.TaskSound :=
        sound.undergo snapshot.now occurrence
      have later := ih soundAfter orderly.2
      cases step : occurrence.isStep with
      | true =>
          simp only [undergoAll_cons, later, settledAfter, settled_undergo_step sound step,
            List.filter_cons, step]
          rfl
      | false =>
          have follows : (snapshot.settled.undergo occurrence).settled =
              (snapshot.undergo occurrence).settled := by
            rcases orderly.1 with stepped | timing | rests
            · cases step.symm.trans stepped
            · exact settled_undergo_timing sound timing
            · rw [settled_of_rests rests]
          simp only [undergoAll_cons, later, settledAfter, List.filter_cons, step, Bool.not_false,
            if_true, List.foldl_cons, follows]

/-- Two orderly runs that differ in the steps of the task only end alike once the task rests. -/
theorem undergoAll_eq_of_rests (sound : snapshot.source.TaskSound) {left right : List Occurrence}
    (orderlyLeft : snapshot.Orderly left) (orderlyRight : snapshot.Orderly right)
    (same : (left.filter fun occurrence => !occurrence.isStep) =
      right.filter fun occurrence => !occurrence.isStep)
    (restsLeft : (snapshot.undergoAll left).source.task.Rests (snapshot.undergoAll left).now)
    (restsRight : (snapshot.undergoAll right).source.task.Rests (snapshot.undergoAll right).now) :
    snapshot.undergoAll left = snapshot.undergoAll right := by
  rw [← settled_of_rests restsLeft, ← settled_of_rests restsRight,
    settled_undergoAll sound orderlyLeft, settled_undergoAll sound orderlyRight, same]

end Snapshot

end Rendezvous
