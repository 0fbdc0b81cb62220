import Rendezvous.Proofs.Admission.Race

/-!
# What a race makes of a timeline

A race knows its force signal only from what its polls read, so it goes the same way along any two
timelines on which the polls read the same (`ForceRace.run_eq_judge`). The first poll that reads a
raised signal ends the race, unless the service has answered at a poll before it
(`ForceRace.forced_iff_raised_in_time`).
-/

namespace Rendezvous

namespace ForceSignal

/-- What the polls on a timeline read from the signal, one after another. -/
def readings (signal : ForceSignal) : List Moment → List Bool
  | [] => []
  | .poll :: rest => signal.raised :: signal.readings rest
  | moment :: rest => (signal.after moment).readings rest

/-- The signal at the end of a timeline. -/
def afterAll (signal : ForceSignal) (timeline : List Moment) : ForceSignal :=
  timeline.foldl after signal

variable {signal : ForceSignal}

theorem afterAll_append (before rest : List Moment) :
    signal.afterAll (before ++ rest) = (signal.afterAll before).afterAll rest :=
  List.foldl_append

theorem readings_append (before rest : List Moment) :
    signal.readings (before ++ rest) =
      signal.readings before ++ (signal.afterAll before).readings rest := by
  induction before generalizing signal with
  | nil => rfl
  | cons moment before ih => cases moment <;> simp [readings, afterAll, after, ih]

/-- Once nobody holds the signal, all polls read the value that it has kept. -/
theorem readings_of_released (released : signal.held = false) (timeline : List Moment) :
    signal.readings timeline = List.replicate (timeline.count .poll) signal.raised := by
  induction timeline generalizing signal with
  | nil => rfl
  | cons moment rest ih =>
      cases moment with
      | poll => simp [readings, ih released, List.replicate_succ]
      | raise => simpa [readings, after, released] using ih released
      | lower => simpa [readings, after, released] using ih released
      | release =>
          have gone : (signal.after .release).held = false := rfl
          simpa [readings, after] using ih gone

/-! ## Changes between two polls -/

/-- The signal is raised and lowered only. -/
def IsChange (moment : Moment) : Prop :=
  moment = .raise ∨ moment = .lower

theorem after_lower_of_change {moment : Moment} (change : IsChange moment) :
    (signal.after moment).after .lower = signal.after .lower := by
  rcases change with rfl | rfl <;> cases held : signal.held <;> simp [after, held]

variable {changes : List Moment}

/-- What was changed before does not matter once the signal is lowered. -/
theorem afterAll_lower (only : ∀ moment ∈ changes, IsChange moment) :
    (signal.afterAll changes).after .lower = signal.after .lower := by
  induction changes generalizing signal with
  | nil => rfl
  | cons moment rest ih =>
      rw [List.forall_mem_cons] at only
      exact (ih only.2).trans (after_lower_of_change only.1)

theorem readings_of_changes (only : ∀ moment ∈ changes, IsChange moment) :
    signal.readings changes = [] := by
  induction changes generalizing signal with
  | nil => rfl
  | cons moment rest ih =>
      rw [List.forall_mem_cons] at only
      rcases only.1 with rfl | rfl <;> exact ih only.2

theorem after_lower_of_lowered (lowered : signal.raised = false) :
    signal.after .lower = signal := by
  cases signal
  cases lowered
  exact ite_self _

/-- A lowered signal that is raised and lowered again between two polls might as well have been left
alone. -/
theorem afterAll_of_undone (lowered : signal.raised = false)
    (only : ∀ moment ∈ changes, IsChange moment) (rest : List Moment) :
    signal.afterAll (.raise :: (changes ++ .lower :: rest)) = signal.afterAll rest ∧
      signal.readings (.raise :: (changes ++ .lower :: rest)) = signal.readings rest := by
  have all : ∀ moment ∈ .raise :: changes, IsChange moment :=
    List.forall_mem_cons.mpr ⟨Or.inl rfl, only⟩
  have undone : (signal.afterAll (.raise :: changes)).after .lower = signal :=
    (afterAll_lower all).trans (after_lower_of_lowered lowered)
  rw [← List.cons_append]
  constructor
  · rw [afterAll_append]
    change ((signal.afterAll (.raise :: changes)).after .lower).afterAll rest = _
    rw [undone]
  · rw [readings_append, readings_of_changes all]
    change ((signal.afterAll (.raise :: changes)).after .lower).readings rest = _
    rw [undone]

end ForceSignal

namespace ForceRace

variable {Answer State : Type}

/-- How often a service with the given answers is polled, and how the race ends, when the polls read
the given values of the signal. -/
def judge (answer : Nat → Option Answer) : List Bool → Nat × Option (Verdict Answer)
  | [] => (0, none)
  | true :: _ => (0, some .forced)
  | false :: rest =>
      match answer 0 with
      | some given => (1, some (.answered given))
      | none =>
          let later := judge (fun poll => answer (poll + 1)) rest
          (later.1 + 1, later.2)

/-- The polls before a poll have read a lowered signal and have had no answer. -/
def Quiet (answer : Nat → Option Answer) (readings : List Bool) (poll : Nat) : Prop :=
  ∀ earlier < poll, readings[earlier]? = some false ∧ answer earlier = none

theorem Quiet.zero (answer : Nat → Option Answer) (readings : List Bool) :
    Quiet answer readings 0 := by
  intro earlier early
  omega

theorem Quiet.cons {answer : Nat → Option Answer} {readings : List Bool} {poll : Nat}
    (first : answer 0 = none) (quiet : Quiet (fun poll => answer (poll + 1)) readings poll) :
    Quiet answer (false :: readings) (poll + 1) := by
  intro earlier early
  cases earlier with
  | zero => exact ⟨rfl, first⟩
  | succ earlier => simpa using quiet earlier (by omega)

/-- A race goes on as long as it is quiet, and ends at a poll that reads a raised signal or has an
answer. -/
theorem judge_cases (answer : Nat → Option Answer) (readings : List Bool) :
    (Quiet answer readings readings.length ∧ judge answer readings = (readings.length, none)) ∨
    ∃ poll, Quiet answer readings poll ∧
      ((readings[poll]? = some true ∧ judge answer readings = (poll, some .forced)) ∨
        ∃ given, readings[poll]? = some false ∧ answer poll = some given ∧
          judge answer readings = (poll + 1, some (.answered given))) := by
  induction readings generalizing answer with
  | nil => exact Or.inl ⟨.zero _ _, rfl⟩
  | cons raised rest ih =>
      cases raised with
      | true => exact Or.inr ⟨0, .zero _ _, Or.inl ⟨rfl, rfl⟩⟩
      | false =>
          cases first : answer 0 with
          | some given =>
              refine Or.inr ⟨0, .zero _ _, Or.inr ⟨given, rfl, first, ?_⟩⟩
              simp [judge, first]
          | none =>
              have step : judge answer (false :: rest) =
                  ((judge (fun poll => answer (poll + 1)) rest).1 + 1,
                    (judge (fun poll => answer (poll + 1)) rest).2) := by
                simp [judge, first]
              rcases ih (fun poll => answer (poll + 1)) with
                ⟨quiet, same⟩ | ⟨poll, quiet, ⟨read, same⟩ | ⟨given, read, answered, same⟩⟩
              · exact Or.inl ⟨quiet.cons first, by rw [step, same]; rfl⟩
              · refine Or.inr ⟨poll + 1, quiet.cons first, Or.inl ⟨by simpa using read, ?_⟩⟩
                rw [step, same]
              · refine Or.inr ⟨poll + 1, quiet.cons first, Or.inr ⟨given, ?_, answered, ?_⟩⟩
                · simpa using read
                · rw [step, same]

variable {answer : Nat → Option Answer} {readings : List Bool} {last poll : Nat}

theorem Quiet.le_of_raised (quiet : Quiet answer readings last)
    (raised : readings[poll]? = some true) : last ≤ poll := by
  apply Nat.le_of_not_lt
  intro early
  have lowered := (quiet poll early).1
  simp [raised] at lowered

theorem Quiet.le_of_answered (quiet : Quiet answer readings last) {given : Answer}
    (answered : answer poll = some given) : last ≤ poll := by
  apply Nat.le_of_not_lt
  intro early
  have silent := (quiet poll early).2
  simp [answered] at silent

/-- The signal ends a race if a poll reads it raised before the service has answered. -/
theorem judge_eq_forced_iff : (judge answer readings).2 = some .forced ↔
    ∃ poll, readings[poll]? = some true ∧ ∀ earlier < poll, answer earlier = none := by
  rcases judge_cases answer readings with
    ⟨quiet, same⟩ | ⟨last, quiet, ⟨read, same⟩ | ⟨given, read, answered, same⟩⟩
  · simp only [same, reduceCtorEq, false_iff]
    rintro ⟨poll, raised, _⟩
    have present := (List.getElem?_eq_some_iff.mp raised).1
    have absent := quiet.le_of_raised raised
    omega
  · simp only [same, true_iff]
    exact ⟨last, read, fun earlier early => (quiet earlier early).2⟩
  · simp only [same, Option.some.injEq, reduceCtorEq, false_iff]
    rintro ⟨poll, raised, silent⟩
    rcases Nat.lt_or_eq_of_le (quiet.le_of_raised raised) with late | rfl
    · have unanswered := silent last late
      simp [answered] at unanswered
    · simp [raised] at read

/-- An answer ends a race if it is the first and no poll up to it reads a raised signal. -/
theorem judge_eq_answered_iff {given : Answer} :
    (judge answer readings).2 = some (.answered given) ↔
      ∃ poll, (judge answer readings).1 = poll + 1 ∧ answer poll = some given ∧
        (∀ earlier < poll, answer earlier = none) ∧
        ∀ read ≤ poll, readings[read]? = some false := by
  rcases judge_cases answer readings with
    ⟨quiet, same⟩ | ⟨last, quiet, ⟨raised, same⟩ | ⟨own, lowered, answered, same⟩⟩
  · simp only [same, reduceCtorEq, false_iff]
    rintro ⟨poll, polls, answered, _⟩
    have late := quiet.le_of_answered answered
    omega
  · simp only [same, Option.some.injEq, reduceCtorEq, false_iff]
    rintro ⟨poll, rfl, answered, _⟩
    have late := quiet.le_of_answered answered
    omega
  · simp only [same, Option.some.injEq, Verdict.answered.injEq]
    constructor
    · rintro rfl
      refine ⟨last, rfl, answered, fun earlier early => (quiet earlier early).2, ?_⟩
      intro read early
      rcases Nat.lt_or_eq_of_le early with before | rfl
      · exact (quiet read before).1
      · exact lowered
    · rintro ⟨poll, same, found, _⟩
      obtain rfl : last = poll := by omega
      simpa [answered] using found

theorem quiet_of_undecided (undecided : (judge answer readings).2 = none) :
    Quiet answer readings readings.length := by
  rcases judge_cases answer readings with
    ⟨quiet, _⟩ | ⟨last, _, ⟨_, same⟩ | ⟨given, _, _, same⟩⟩
  · exact quiet
  · simp [same] at undecided
  · simp [same] at undecided

/-- The service is not polled at a poll that reads a raised signal, nor after it. -/
theorem judge_fst_le (raised : readings[poll]? = some true) :
    (judge answer readings).1 ≤ poll := by
  rcases judge_cases answer readings with
    ⟨quiet, same⟩ | ⟨last, quiet, ⟨read, same⟩ | ⟨given, read, answered, same⟩⟩
  · rw [same]
    exact quiet.le_of_raised raised
  · rw [same]
    exact quiet.le_of_raised raised
  · rw [same]
    rcases Nat.lt_or_eq_of_le (quiet.le_of_raised raised) with late | rfl
    · exact late
    · simp [raised] at read

/-- A lowered signal that is read for the rest of a race does not end it. -/
theorem judge_of_lowered {count : Nat}
    (forced : (judge answer (readings ++ List.replicate count false)).2 = some .forced) :
    (judge answer readings).2 = some .forced := by
  rw [judge_eq_forced_iff] at forced ⊢
  rcases forced with ⟨poll, raised, silent⟩
  refine ⟨poll, ?_, silent⟩
  rcases Nat.lt_or_ge poll readings.length with early | late
  · rwa [List.getElem?_append_left early] at raised
  · rw [List.getElem?_append_right late, List.getElem?_replicate] at raised
    simp at raised

/-- A race that is not over ends when the signal is read raised. -/
theorem judge_of_raised (undecided : (judge answer readings).2 = none) (rest : List Bool) :
    (judge answer (readings ++ true :: rest)).2 = some .forced := by
  rw [judge_eq_forced_iff]
  refine ⟨readings.length, by simp, ?_⟩
  intro earlier early
  exact (quiet_of_undecided undecided earlier early).2

/-! ## Runs -/

variable {race : ForceRace Answer}

theorem run_cons (service : Nat → Option Answer) (moment : Moment) (rest : List Moment) :
    race.run service (moment :: rest) = (race.step service moment).run service rest :=
  rfl

theorem run_of_ended {service : Nat → Option Answer} {verdict : Verdict Answer}
    (ended : race.verdict = some verdict) (timeline : List Moment) :
    race.run service timeline = { race with signal := race.signal.afterAll timeline } := by
  induction timeline generalizing race with
  | nil => rfl
  | cons moment rest ih =>
      cases moment with
      | poll =>
          have unchanged : race.step service .poll = race := by simp [step, poll, ended]
          rw [run_cons, unchanged]
          exact ih ended
      | _ =>
          rw [run_cons]
          exact ih ended

/-- A race depends on a timeline only through what its polls read. -/
theorem run_eq_judge {service : Nat → Option Answer} (undecided : race.verdict = none)
    (timeline : List Moment) :
    let judged := judge (fun poll => service (race.polls + poll)) (race.signal.readings timeline)
    race.run service timeline =
      ⟨race.signal.afterAll timeline, race.polls + judged.1, judged.2⟩ := by
  induction timeline generalizing race with
  | nil =>
      obtain ⟨signal, polls, _⟩ := race
      cases undecided
      rfl
  | cons moment rest ih =>
      cases moment with
      | poll =>
          obtain ⟨⟨raised, held⟩, polls, _⟩ := race
          cases undecided
          cases raised with
          | true =>
              rw [run_cons]
              exact run_of_ended rfl rest
          | false =>
              cases answered : service polls with
              | some given =>
                  have step : step service ⟨⟨false, held⟩, polls, none⟩ .poll =
                      ⟨⟨false, held⟩, polls + 1, some (.answered given)⟩ := by
                    simp [step, poll, answered]
                  rw [run_cons, step]
                  refine (run_of_ended rfl rest).trans ?_
                  simp [ForceSignal.readings, judge, answered, ForceSignal.afterAll,
                    ForceSignal.after]
              | none =>
                  have step : step service ⟨⟨false, held⟩, polls, none⟩ .poll =
                      ⟨⟨false, held⟩, polls + 1, none⟩ := by
                    simp [step, poll, answered]
                  rw [run_cons, step]
                  refine (ih rfl).trans ?_
                  simp [ForceSignal.readings, judge, answered, ForceSignal.afterAll,
                    ForceSignal.after, Nat.add_assoc, Nat.add_comm 1]
      | _ =>
          rw [run_cons]
          exact ih undecided

theorem meetAll_eq_judge (service : StateM State (Option Answer)) (signal : ForceSignal)
    (timeline : List Moment) (state : State) :
    let judged := judge (Worker.answer service state) (signal.readings timeline)
    (meetAll service { signal } timeline).run state =
      (⟨signal.afterAll timeline, judged.1, judged.2⟩,
        Worker.stateAfter service state judged.1) := by
  have met := meetAll_eq service { signal } state timeline
  rw [run_eq_judge rfl] at met
  simpa [Worker.stateAfter] using met

/-- The signal ends a call if and only if a poll reads it raised no later than the service would
answer, and then the client hears that the service is unavailable. The service is polled neither
then nor later. Otherwise the client gets its first answer as it is, at the poll that gives it. What
is done to the signal and undone before the next poll does not count; a signal that is let go keeps
its value, so that it ends no call if it is lowered and every call that is polled if it is raised.
-/
theorem forced_iff_raised_in_time (service : StateM State (Option Http.Response))
    (signal : ForceSignal) (timeline : List Moment) (state : State) :
    let readings := signal.readings timeline
    let answer := Worker.answer service state
    let met := fun timeline => (meetAll service { signal } timeline).run state
    let race := (met timeline).1
    (race.verdict = some .forced ↔
        ∃ poll, readings[poll]? = some true ∧ ∀ earlier < poll, answer earlier = none) ∧
      (race.verdict = some .forced → race.response? = some (.ofStatus .unavailable)) ∧
      (∀ poll, readings[poll]? = some true → race.polls ≤ poll) ∧
      (met timeline).2 = Worker.stateAfter service state race.polls ∧
      (∀ response, race.verdict = some (.answered response) ↔
        ∃ poll, race.polls = poll + 1 ∧ answer poll = some response ∧
          (∀ earlier < poll, answer earlier = none) ∧
          ∀ read ≤ poll, readings[read]? = some false) ∧
      (∀ response, race.verdict = some (.answered response) → race.response? = some response) ∧
      (∀ before changes rest, timeline = before ++ .raise :: (changes ++ .lower :: rest) →
        (signal.afterAll before).raised = false →
        (∀ moment ∈ changes, moment = .raise ∨ moment = .lower) →
          met timeline = met (before ++ rest)) ∧
      ∀ before rest, timeline = before ++ .release :: rest →
        ((signal.afterAll before).raised = false → race.verdict = some .forced →
          (met before).1.verdict = some .forced) ∧
        ((signal.afterAll before).raised = true → (met before).1.verdict = none →
          .poll ∈ rest → race.verdict = some .forced) := by
  intro readings answer met race
  have judged : ∀ timeline, met timeline =
      (⟨signal.afterAll timeline, (judge answer (signal.readings timeline)).1,
          (judge answer (signal.readings timeline)).2⟩,
        Worker.stateAfter service state (judge answer (signal.readings timeline)).1) :=
    fun timeline => meetAll_eq_judge service signal timeline state
  have verdict : ∀ timeline, (met timeline).1.verdict =
      (judge answer (signal.readings timeline)).2 := by
    intro timeline
    rw [judged]
  have polls : race.polls = (judge answer readings).1 := by
    change (met timeline).1.polls = _
    rw [judged]
  refine ⟨?_, ?_, ?_, ?_, ?_, ?_, ?_, ?_⟩
  · rw [verdict]
    exact judge_eq_forced_iff
  · intro forced
    rw [response?, forced]
    rfl
  · intro poll raised
    rw [polls]
    exact judge_fst_le raised
  · rw [polls, judged]
  · intro response
    rw [verdict, polls]
    exact judge_eq_answered_iff
  · intro response answered
    rw [response?, answered]
    rfl
  · rintro before changes rest rfl lowered only
    have undone := ForceSignal.afterAll_of_undone lowered only rest
    rw [judged, judged, ForceSignal.afterAll_append, ForceSignal.afterAll_append, undone.1,
      ForceSignal.readings_append, ForceSignal.readings_append, undone.2]
  · rintro before rest rfl
    have kept : signal.readings (before ++ .release :: rest) = signal.readings before ++
        List.replicate (rest.count .poll) (signal.afterAll before).raised := by
      have gone : ((signal.afterAll before).after .release).held = false := rfl
      rw [ForceSignal.readings_append]
      exact congrArg _ (ForceSignal.readings_of_released gone rest)
    change (_ → (met _).1.verdict = _ → _) ∧ (_ → _ → _ → (met _).1.verdict = _)
    rw [verdict, verdict, kept]
    constructor
    · intro lowered forced
      rw [lowered] at forced
      exact judge_of_lowered forced
    · intro raised undecided polled
      rw [raised, ← Nat.succ_pred_eq_of_pos (List.count_pos_iff.mpr polled), List.replicate_succ]
      exact judge_of_raised undecided _

/-- A service that would answer at its second poll is raced to a draw by a signal that is let go
raised, after it had been raised in vain before the first poll. -/
theorem forced_iff_raised_in_time_of_draw :
    let service : StateM Nat (Option Http.Response) :=
      fun polls => (if polls = 1 then some { status := 200 } else none, polls + 1)
    let met := fun timeline => (meetAll service { signal := {} } timeline).run 0
    let timeline := [.raise, .lower, .poll, .raise, .release, .poll, .poll]
    (met timeline).1.response? = some (.ofStatus .unavailable) ∧ (met timeline).2 = 1 ∧
      met timeline = met [.poll, .raise, .release, .poll, .poll] := by
  intro service met timeline
  have raced := forced_iff_raised_in_time service {} timeline 0
  have forced : (met timeline).1.verdict = some .forced := by
    refine raced.1.mpr ⟨1, by decide, ?_⟩
    intro earlier early
    obtain rfl : earlier = 0 := by omega
    rfl
  have once : (met timeline).1.polls = 1 := by decide
  refine ⟨raced.2.1 forced, ?_, ?_⟩
  · exact raced.2.2.2.1.trans (by rw [once]; rfl)
  · exact raced.2.2.2.2.2.2.1 [] [] [.poll, .raise, .release, .poll, .poll] rfl rfl (by simp)

end ForceRace

end Rendezvous
