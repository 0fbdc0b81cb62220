import Rendezvous.Admission.Passage

/-!
# A worker in a race against the force signal

A worker in a race is polled in the states that its own polls lead to, so the race is the one that
is run with the answers to these polls (`ForceRace.meetAll_eq`). As long as the signal does not end
it, the race goes as if the worker was polled until it answers (`ForceRace.meetAll_of_unforced`).
-/

namespace Rendezvous

namespace Worker

variable {Answer State : Type}

/-- The state after a number of polls. -/
def stateAfter (service : StateM State (Option Answer)) (state : State) : Nat → State
  | 0 => state
  | polls + 1 => (service.run (stateAfter service state polls)).2

/-- The answer to a poll, counted from zero. -/
def answer (service : StateM State (Option Answer)) (state : State) (poll : Nat) : Option Answer :=
  (service.run (stateAfter service state poll)).1

/-- A service is polled until it answers, at most a number of times. -/
def await (service : StateM State (Option Answer)) : Nat → StateM State (Option Answer)
  | 0 => pure none
  | polls + 1 => do
      match ← service with
      | some answer => pure (some answer)
      | none => await service polls

theorem stateAfter_map {Other : Type} (service : StateM State (Option Answer))
    (change : Answer → Other) (state : State) (polls : Nat) :
    stateAfter (Option.map change <$> service) state polls = stateAfter service state polls := by
  induction polls with
  | zero => rfl
  | succ polls ih =>
      rw [stateAfter, stateAfter, ih]
      rfl

theorem await_map {Other : Type} (service : StateM State (Option Answer)) (change : Answer → Other)
    (polls : Nat) :
    await (Option.map change <$> service) polls = Option.map change <$> await service polls := by
  induction polls with
  | zero => rfl
  | succ polls ih =>
      rw [await, await, bind_map_left, map_bind]
      congr 1
      funext answer
      cases answer with
      | none => exact ih
      | some answer => rfl

/-- What holds of every answer that the service gives holds of the one that is awaited. -/
theorem answer_await {service : StateM State (Option Answer)} {holds : Answer → Prop}
    (answers : ∀ state answer, (service.run state).1 = some answer → holds answer) (polls : Nat)
    (state : State) {answer : Answer}
    (awaited : ((await service polls).run state).1 = some answer) : holds answer := by
  induction polls generalizing state with
  | zero => cases awaited
  | succ polls ih =>
      rw [await, StateT.run_bind] at awaited
      cases polled : service.run state with
      | mk given after =>
          rw [polled] at awaited
          cases given with
          | none => exact ih after awaited
          | some given =>
              cases awaited
              exact answers state answer (congrArg Prod.fst polled)

end Worker

namespace ForceRace

variable {Answer State : Type} {service : StateM State (Option Answer)} {race : ForceRace Answer}

theorem meetAll_cons (moment : Moment) (rest : List Moment) (state : State) :
    (meetAll service race (moment :: rest)).run state =
      (meetAll service ((meet service race moment).run state).1 rest).run
        ((meet service race moment).run state).2 :=
  rfl

theorem meet_poll_of_forced (undecided : race.verdict = none) (raised : race.signal.raised = true)
    (state : State) :
    (meet service race .poll).run state = ({ race with verdict := some .forced }, state) := by
  rw [meet, undecided, if_pos raised]
  rfl

theorem meet_poll (undecided : race.verdict = none) (lowered : race.signal.raised = false)
    (state : State) :
    (meet service race .poll).run state =
      ({ race with
        polls := race.polls + 1
        verdict := (service.run state).1.map .answered }, (service.run state).2) := by
  rw [meet, undecided, if_neg (by rw [lowered]; exact Bool.false_ne_true)]
  rfl

/-- A race that is over is left as it is, and the service is not polled. -/
theorem meet_of_ended {verdict : Verdict Answer} (ended : race.verdict = some verdict)
    (moment : Moment) (state : State) :
    (meet service race moment).run state =
      ({ race with signal := race.signal.after moment }, state) := by
  obtain ⟨signal, polls, _⟩ := race
  cases ended
  cases moment <;> rfl

theorem meetAll_of_ended {verdict : Verdict Answer} (ended : race.verdict = some verdict)
    (timeline : List Moment) (state : State) :
    (meetAll service race timeline).run state =
      ({ race with signal := timeline.foldl ForceSignal.after race.signal }, state) := by
  induction timeline generalizing race with
  | nil => rfl
  | cons moment rest ih =>
      rw [meetAll_cons, meet_of_ended ended]
      exact ih ended

/-- The service is in the state to which its own polls have led. -/
theorem meet_eq_step (start : State) (moment : Moment) :
    (meet service race moment).run (Worker.stateAfter service start race.polls) =
      (race.step (Worker.answer service start) moment,
        Worker.stateAfter service start
          (race.step (Worker.answer service start) moment).polls) := by
  cases moment with
  | poll =>
      rw [step, poll]
      cases verdict : race.verdict with
      | some ended => exact meet_of_ended verdict .poll _
      | none =>
          cases raised : race.signal.raised with
          | true => exact meet_poll_of_forced verdict raised _
          | false => exact meet_poll verdict raised _
  | _ => rfl

/-- The race is the one that is run with the answers of the service to one poll after another, and
the service is polled as often as the race says. -/
theorem meetAll_eq (service : StateM State (Option Answer)) (race : ForceRace Answer)
    (start : State) (timeline : List Moment) :
    let ended := race.run (Worker.answer service start) timeline
    (meetAll service race timeline).run (Worker.stateAfter service start race.polls) =
      (ended, Worker.stateAfter service start ended.polls) := by
  induction timeline generalizing race with
  | nil => rfl
  | cons moment rest ih =>
      rw [meetAll_cons, meet_eq_step]
      exact ih _

theorem meetAll_eq_run (start : State) (timeline : List Moment) :
    ((meetAll service race timeline).run (Worker.stateAfter service start race.polls)).1 =
      race.run (Worker.answer service start) timeline :=
  congrArg Prod.fst (meetAll_eq service race start timeline)

/-- A race that the signal does not end goes as if the service was polled until it answers. -/
theorem meetAll_of_unforced (undecided : race.verdict = none) (timeline : List Moment) (state : State)
    (unforced : ((meetAll service race timeline).run state).1.verdict ≠ some .forced) :
    (((meetAll service race timeline).run state).1.verdict,
        ((meetAll service race timeline).run state).2) =
      (Option.map .answered <$> Worker.await service (timeline.count .poll)).run state := by
  induction timeline generalizing race state with
  | nil =>
      change (race.verdict, state) = (none, state)
      rw [undecided]
  | cons moment rest ih =>
      rw [meetAll_cons] at unforced ⊢
      cases moment with
      | poll =>
          cases raised : race.signal.raised with
          | true =>
              rw [meet_poll_of_forced undecided raised, meetAll_of_ended rfl] at unforced
              exact absurd rfl unforced
          | false =>
              rw [meet_poll undecided raised] at unforced ⊢
              rw [List.count_cons_self, Worker.await, map_bind, StateT.run_bind]
              cases answered : service.run state with
              | mk answer after =>
                  cases answer with
                  | none =>
                      rw [answered] at unforced
                      exact ih rfl after unforced
                  | some answer =>
                      rw [meetAll_of_ended rfl]
                      rfl
      | _ =>
          refine ih ?_ state unforced
          exact undecided

end ForceRace

end Rendezvous
