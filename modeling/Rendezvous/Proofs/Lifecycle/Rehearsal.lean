import Mathlib.Order.Basic
import Rendezvous.Lifecycle.Rehearsal
import Rendezvous.Proofs.Lifecycle.Transition

/-!
# The turns of a rehearsal

While an operation waits for the answer of the server, other actors begin and the clock moves. As
long as the lifecycle is past its start none of this concerns the operation, and after at most two
turns for each actor that has not begun, and one more, the answer is due.
-/

namespace Rendezvous

namespace Rehearsal

variable {rehearsal next before after final : Rehearsal} {operation : OperationNumber}
  {position : Nat}

/-! ## Numbers of turns -/

theorem turns_succ (turned : rehearsal.turn? = some next) (count : Nat) :
    rehearsal.turns (count + 1) = next.turns count := by
  rw [turns, turned]

theorem turns_of_none (still : rehearsal.turn? = none) (count : Nat) :
    rehearsal.turns count = rehearsal := by
  cases count with
  | zero => rfl
  | succ count => rw [turns, still]

theorem turns_add (rehearsal : Rehearsal) (earlier later : Nat) :
    rehearsal.turns (earlier + later) = (rehearsal.turns earlier).turns later := by
  induction earlier generalizing rehearsal with
  | zero => rw [Nat.zero_add, turns]
  | succ earlier ih =>
      cases turned : rehearsal.turn? with
      | none => rw [turns_of_none turned, turns_of_none turned, turns_of_none turned]
      | some next =>
          rw [Nat.add_right_comm, turns_succ turned, turns_succ turned]
          exact ih next

/-! ## The clock -/

/-- The times at which something is due. -/
def moments (rehearsal : Rehearsal) : List Nat :=
  (rehearsal.answer.map Prod.fst).toList ++ rehearsal.actors.filterMap Actor.start?

theorem foldl_earlier (actors : List Actor) (first : Option Nat) :
    actors.foldl (fun time actor => earlier time actor.start?) first =
      (first.toList ++ actors.filterMap Actor.start?).min? := by
  induction actors generalizing first with
  | nil => cases first <;> rfl
  | cons actor rest ih =>
      rw [List.foldl_cons, ih, List.filterMap_cons]
      cases actor.start? with
      | none => cases first <;> rfl
      | some start => cases first <;> rfl

theorem nextTime?_eq_min? (rehearsal : Rehearsal) : rehearsal.nextTime? = rehearsal.moments.min? :=
  foldl_earlier _ _

/-! ## Actors that begin -/

/-- How many actors have not begun. -/
def delayed (rehearsal : Rehearsal) : Nat :=
  rehearsal.actors.countP fun actor => actor.start?.isSome

theorem firstDue?_eq_some {now first : Nat} {actors : List Actor} {command : Command}
    (due : firstDue? now actors = some (first, command)) :
    ∃ start, start ≤ now ∧ actors[first]? = some (.delayed start command) := by
  induction actors generalizing first with
  | nil => cases due
  | cons actor rest ih =>
      have later : (firstDue? now rest).map (Prod.map (· + 1) id) = some (first, command) →
          ∃ start, start ≤ now ∧ (actor :: rest)[first]? = some (.delayed start command) := by
        intro due
        rcases Option.map_eq_some_iff.mp due with ⟨⟨index, _⟩, found, same⟩
        cases same
        exact ih found
      cases actor with
      | delayed start other =>
          rw [firstDue?] at due
          split at due
          · rename_i past
            cases due
            exact ⟨start, past, rfl⟩
          · exact later due
      | acting _ => exact later due
      | ended _ _ _ => exact later due

theorem lt_of_firstDue?_eq_none {now : Nat} {actors : List Actor}
    (none : firstDue? now actors = none) : ∀ start ∈ actors.filterMap Actor.start?, now < start := by
  induction actors with
  | nil => exact fun _ member => nomatch member
  | cons actor rest ih =>
      cases actor with
      | delayed start command =>
          rw [firstDue?] at none
          split at none
          · cases none
          · rename_i future
            intro other member
            rcases List.mem_cons.mp member with rfl | member
            · exact Nat.not_le.mp future
            · exact ih (Option.map_eq_none_iff.mp none) other member
      | acting _ => exact ih (Option.map_eq_none_iff.mp none)
      | ended _ _ _ => exact ih (Option.map_eq_none_iff.mp none)

/-- An actor that has begun is counted no more. -/
theorem countP_set_of_delayed {actors : List Actor} {first start : Nat} {command : Command}
    {actor : Actor} (found : actors[first]? = some (.delayed start command))
    (begun : actor.start? = none) :
    ((actors.set first actor).countP fun actor => actor.start?.isSome) + 1 =
      actors.countP fun actor => actor.start?.isSome := by
  induction actors generalizing first with
  | nil => cases found
  | cons head rest ih =>
      cases first with
      | zero =>
          cases found
          rw [List.set_cons_zero, List.countP_cons_of_neg (by rw [begun]; exact Bool.false_ne_true),
            List.countP_cons_of_pos rfl]
      | succ first =>
          rw [List.set_cons_succ, List.countP_cons, List.countP_cons, Nat.add_right_comm,
            ih found]

/-! ## Operations that end -/

theorem delayed_endActors (rehearsal : Rehearsal) :
    rehearsal.endActors.delayed = rehearsal.delayed := by
  rw [delayed, endActors, List.countP_map, delayed]
  congr 1
  funext actor
  cases actor with
  | acting operation =>
      change (Actor.start? (if _ then _ else _)).isSome = _
      split <;> rfl
  | _ => rfl

theorem endActors_of_running {progress : Progress}
    (acts : rehearsal.actors[position]? = some (.acting operation))
    (found : rehearsal.control.operations[operation]? = some progress)
    (running : progress.hasEnded = false) :
    rehearsal.endActors.actors[position]? = some (.acting operation) := by
  simp only [endActors, List.getElem?_map, acts, Option.map_some, found, Option.any_some, running,
    Bool.false_eq_true, if_false]

theorem endActors_of_ended {progress : Progress}
    (acts : rehearsal.actors[position]? = some (.acting operation))
    (found : rehearsal.control.operations[operation]? = some progress)
    (ended : progress.hasEnded = true) :
    rehearsal.endActors.actors[position]? =
      some (.ended rehearsal.now rehearsal.control.phase (some operation)) := by
  simp only [endActors, List.getElem?_map, acts, Option.map_some, found, Option.any_some, ended,
    if_true]

theorem endActors_of_over {time : Nat} {phase : Phase} {done : Option OperationNumber}
    (gone : rehearsal.actors[position]? = some (.ended time phase done)) :
    rehearsal.endActors.actors[position]? = some (.ended time phase done) := by
  rw [endActors, List.getElem?_map, gone]
  rfl

/-! ## What does not concern an operation -/

/-- The same for an operation and for the actor that carries it out. -/
structure Keeps (operation : OperationNumber) (position : Nat) (before after : Rehearsal) : Prop where
  script : after.script = before.script
  ending : after.ending = before.ending
  phase : after.control.phase = before.control.phase
  holder : after.control.holder = before.control.holder
  progress : after.control.operations[operation]? = before.control.operations[operation]?
  answer : after.answer = before.answer
  queue : after.queue = before.queue
  calls : after.calls = before.calls
  actor : after.actors[position]? = before.actors[position]?

theorem Keeps.rfl : Keeps operation position rehearsal rehearsal :=
  ⟨.refl _, .refl _, .refl _, .refl _, .refl _, .refl _, .refl _, .refl _, .refl _⟩

theorem Keeps.trans (first : Keeps operation position before after)
    (second : Keeps operation position after final) : Keeps operation position before final where
  script := second.script.trans first.script
  ending := second.ending.trans first.ending
  phase := second.phase.trans first.phase
  holder := second.holder.trans first.holder
  progress := second.progress.trans first.progress
  answer := second.answer.trans first.answer
  queue := second.queue.trans first.queue
  calls := second.calls.trans first.calls
  actor := second.actor.trans first.actor

/-- How an actor carries out an operation, or that it has. -/
inductive Carries (operation : OperationNumber) : Actor → Progress → Prop
  | acting {progress : Progress} (running : progress.hasEnded = false) :
      Carries operation (.acting operation) progress
  | ended {progress : Progress} (time : Nat) (phase : Phase) :
      Carries operation (.ended time phase (some operation)) progress

/-- The lifecycle is past its start, nobody waits for the server, and an actor carries out an
operation or has carried it out. -/
structure Settled (operation : OperationNumber) (position : Nat) (rehearsal : Rehearsal) : Prop where
  notCreated : rehearsal.control.phase ≠ .created
  notStarted : rehearsal.control.phase ≠ .started
  queue : rehearsal.queue = []
  carried : ∃ actor progress, rehearsal.actors[position]? = some actor ∧
    rehearsal.control.operations[operation]? = some progress ∧ Carries operation actor progress

theorem Settled.of_keeps (settled : before.Settled operation position)
    (keeps : Keeps operation position before after) : after.Settled operation position where
  notCreated := keeps.phase ▸ settled.notCreated
  notStarted := keeps.phase ▸ settled.notStarted
  queue := keeps.queue.trans settled.queue
  carried := by
    rcases settled.carried with ⟨actor, progress, acts, found, carries⟩
    exact ⟨actor, progress, keeps.actor.trans acts, keeps.progress.trans found, carries⟩

/-- Only actors that carry out an operation end. -/
theorem Carries.endActors {actor : Actor} {progress : Progress}
    (carries : Carries operation actor progress) (acts : rehearsal.actors[position]? = some actor)
    (found : rehearsal.control.operations[operation]? = some progress) :
    rehearsal.endActors.actors[position]? = some actor := by
  cases carries with
  | acting running => exact endActors_of_running acts found running
  | ended time phase => exact endActors_of_over acts

/-! ## Turns that do not concern an operation -/

/-- The server gets the calls that an operation has made. -/
theorem proceed_of_deeds {control : Control} {caller : OperationNumber} (calls : List ServerCall)
    (added : control.deeds =
      rehearsal.control.deeds ++ calls.map fun call => (caller, .called call)) :
    rehearsal.proceed control = (calls.foldl hear { rehearsal with control }).endActors := by
  have made : newCalls rehearsal.control control = calls := by
    rw [newCalls, added, List.drop_left, List.filterMap_map]
    exact List.filterMap_some
  rw [proceed, made]

theorem proceed_of_deeds_eq {control : Control} (same : control.deeds = rehearsal.control.deeds) :
    rehearsal.proceed control = ({ rehearsal with control } : Rehearsal).endActors := by
  have made : newCalls rehearsal.control control = [] := by
    rw [newCalls, same, List.drop_length]
    rfl
  rw [proceed, made]
  rfl

/-- An operation that makes no calls does not concern another one. -/
theorem keeps_proceed_enlist {first start : Nat} {command : Command}
    (settled : rehearsal.Settled operation position)
    (found : rehearsal.actors[first]? = some (.delayed start command)) (progress : Progress) :
    let begun := ({ rehearsal with
      actors := rehearsal.actors.set first
        (.acting rehearsal.control.nextOperation) } : Rehearsal).proceed
          (rehearsal.control.enlist progress)
    Keeps operation position rehearsal begun ∧ begun.now = rehearsal.now ∧
      begun.delayed + 1 = rehearsal.delayed := by
  intro begun
  have began : begun = ({ rehearsal with
      control := rehearsal.control.enlist progress
      actors := rehearsal.actors.set first
        (.acting rehearsal.control.nextOperation) } : Rehearsal).endActors :=
    proceed_of_deeds_eq rfl
  rcases settled.carried with ⟨actor, stage, acts, carried, carries⟩
  have kept : (rehearsal.control.enlist progress).operations[operation]? = some stage :=
    Control.getElem?_enlist.mpr (Or.inl carried)
  have other : first ≠ position := by
    rintro rfl
    cases found.symm.trans acts
    cases carries
  rw [began]
  refine ⟨⟨rfl, rfl, rfl, rfl, kept.trans carried.symm, rfl, rfl, rfl, ?_⟩, rfl, ?_⟩
  · refine (carries.endActors ?_ kept).trans acts.symm
    exact (List.getElem?_set_ne other).trans acts
  · rw [delayed_endActors]
    exact countP_set_of_delayed found rfl

theorem keeps_beginAt {first start : Nat} {command : Command}
    (settled : rehearsal.Settled operation position)
    (found : rehearsal.actors[first]? = some (.delayed start command)) :
    Keeps operation position rehearsal (rehearsal.beginAt first command) ∧
      (rehearsal.beginAt first command).now = rehearsal.now ∧
        (rehearsal.beginAt first command).delayed + 1 = rehearsal.delayed := by
  have enlisted (progress : Progress) :
      (rehearsal.control.enlist progress).operations[rehearsal.control.nextOperation]? =
        some progress :=
    List.getElem?_concat_length
  cases command with
  | start prepared =>
      have begun : rehearsal.control.beginStart prepared =
          rehearsal.control.enlist (.startEnded (.error .alreadyStarted)) := by
        rw [Control.beginStart, Phase.move, if_neg settled.notCreated]
      simp only [beginAt, begun, enlisted]
      exact keeps_proceed_enlist settled found _
  | shutdown grace =>
      have begun : rehearsal.control.beginShutdown grace =
          rehearsal.control.enlist (.shutdownEnded (.ok .notRunning)) := by
        rw [Control.beginShutdown, Phase.move, if_neg settled.notStarted]
      simp only [beginAt, begun, enlisted]
      exact keeps_proceed_enlist settled found _
  | rest =>
      rcases settled.carried with ⟨actor, stage, acts, carried, carries⟩
      have other : first ≠ position := by
        rintro rfl
        cases found.symm.trans acts
        cases carries
      refine ⟨⟨rfl, rfl, rfl, rfl, rfl, rfl, rfl, rfl, ?_⟩, rfl, countP_set_of_delayed found rfl⟩
      exact List.getElem?_set_ne other

/-- A turn in which nobody gets an answer of the server or hold of it. -/
theorem turn?_of_quiet (idle : rehearsal.queue = [])
    (ahead : ∀ due step, rehearsal.answer = some (due, step) → rehearsal.now < due) :
    rehearsal.turn? = (rehearsal.begin? <|> rehearsal.moveClock?) := by
  have unanswered : rehearsal.giveAnswer? = none := by
    rw [giveAnswer?]
    split
    · rfl
    · rename_i due step pending
      exact if_neg (Nat.not_le.mpr (ahead due step pending))
  have free : rehearsal.handOver? = none := by
    rw [handOver?, idle]
  rw [turn?, unanswered, free]
  rfl

/-- An actor begins before the clock moves. -/
theorem turn?_of_firstDue {first : Nat} {command : Command}
    (settled : rehearsal.Settled operation position)
    (ahead : ∀ due step, rehearsal.answer = some (due, step) → rehearsal.now < due)
    (begins : firstDue? rehearsal.now rehearsal.actors = some (first, command)) :
    ∃ next, rehearsal.turn? = some next ∧ Keeps operation position rehearsal next ∧
      next.now = rehearsal.now ∧ next.delayed + 1 = rehearsal.delayed := by
  rcases firstDue?_eq_some begins with ⟨start, _, found⟩
  refine ⟨rehearsal.beginAt first command, ?_, keeps_beginAt settled found⟩
  rw [turn?_of_quiet settled.queue ahead, begin?, begins]
  rfl

/-- If no actor begins, the clock moves on to the next time at which something is due. -/
theorem turn?_of_none_due (settled : rehearsal.Settled operation position)
    (ahead : ∀ due step, rehearsal.answer = some (due, step) → rehearsal.now < due)
    (none : firstDue? rehearsal.now rehearsal.actors = none) :
    rehearsal.turn? = rehearsal.moments.min?.map fun time => { rehearsal with now := time } := by
  rw [turn?_of_quiet settled.queue ahead, begin?, none, moveClock?, nextTime?_eq_min?]
  cases least : rehearsal.moments.min? with
  | none => rfl
  | some time =>
      have future : rehearsal.now < time := by
        rcases List.mem_append.mp (List.min?_mem least) with answer | starts
        · rcases Option.map_eq_some_iff.mp (Option.mem_toList.mp answer) with
            ⟨⟨due, step⟩, pending, rfl⟩
          exact ahead due step pending
        · exact lt_of_firstDue?_eq_none none time starts
      change some { rehearsal with now := max rehearsal.now time } = some { rehearsal with now := time }
      rw [Nat.max_eq_right (Nat.le_of_lt future)]

theorem keeps_of_quiet_turn (settled : rehearsal.Settled operation position)
    (ahead : ∀ due step, rehearsal.answer = some (due, step) → rehearsal.now < due)
    (turned : rehearsal.turn? = some next) : Keeps operation position rehearsal next := by
  cases begins : firstDue? rehearsal.now rehearsal.actors with
  | some first =>
      rcases turn?_of_firstDue settled ahead begins with ⟨other, same, keeps, _⟩
      cases turned.symm.trans same
      exact keeps
  | none =>
      rw [turn?_of_none_due settled ahead begins] at turned
      rcases Option.map_eq_some_iff.mp turned with ⟨time, _, rfl⟩
      exact ⟨rfl, rfl, rfl, rfl, rfl, rfl, rfl, rfl, rfl⟩

/-- Once its operation has no answer to wait for, an actor is left as it is. -/
theorem keeps_turns (settled : rehearsal.Settled operation position)
    (unasked : rehearsal.answer = none) (count : Nat) :
    Keeps operation position rehearsal (rehearsal.turns count) := by
  induction count generalizing rehearsal with
  | zero => exact Keeps.rfl
  | succ count ih =>
      cases turned : rehearsal.turn? with
      | none =>
          rw [turns_of_none turned]
          exact Keeps.rfl
      | some next =>
          rw [turns_succ turned]
          have keeps := keeps_of_quiet_turn settled
            (fun _ _ pending => nomatch unasked.symm.trans pending) turned
          exact keeps.trans (ih (settled.of_keeps keeps) (keeps.answer.trans unasked))

/-- The clock stops at the time of the answer or where an actor begins. -/
theorem clock_stops {due : Nat} {step : ControlStep} (settled : rehearsal.Settled operation position)
    (pending : rehearsal.answer = some (due, step)) (ahead : rehearsal.now < due)
    (none : firstDue? rehearsal.now rehearsal.actors = none) :
    ∃ time, rehearsal.turn? = some { rehearsal with now := time } ∧
      (time = due ∨ (time < due ∧ ∃ first, firstDue? time rehearsal.actors = some first)) := by
  have future : ∀ time step, rehearsal.answer = some (time, step) → rehearsal.now < time := by
    intro time step other
    cases pending.symm.trans other
    exact ahead
  have listed : due ∈ rehearsal.moments := by
    rw [moments, pending]
    exact List.mem_cons_self
  rw [turn?_of_none_due settled future none]
  cases least : rehearsal.moments.min? with
  | none =>
      rw [List.min?_eq_none_iff.mp least] at listed
      cases listed
  | some time =>
      refine ⟨time, rfl, ?_⟩
      have early : time ≤ due := (List.le_min?_iff least).mp (Nat.le_refl time) due listed
      rcases List.mem_append.mp (List.min?_mem least) with answer | starts
      · rw [pending] at answer
        exact Or.inl (List.mem_singleton.mp answer)
      · refine (Nat.eq_or_lt_of_le early).imp id fun earlier => ⟨earlier, ?_⟩
        cases begins : firstDue? time rehearsal.actors with
        | none => exact absurd (lt_of_firstDue?_eq_none begins time starts) (Nat.lt_irrefl time)
        | some first => exact ⟨first, rfl⟩

/-- An actor begins, or the clock moves to the time of the answer or to that of an actor that begins
next. -/
theorem turn_towards {due : Nat} {step : ControlStep}
    (settled : rehearsal.Settled operation position)
    (pending : rehearsal.answer = some (due, step)) (ahead : rehearsal.now < due) :
    ∃ count, Keeps operation position rehearsal (rehearsal.turns count) ∧
      (((rehearsal.turns count).now = due ∧ count = 1 ∧
          (rehearsal.turns count).delayed = rehearsal.delayed) ∨
        ((rehearsal.turns count).now ≤ due ∧ count ≤ 2 ∧
          (rehearsal.turns count).delayed + 1 = rehearsal.delayed)) := by
  have future {other : Rehearsal} (same : other.answer = rehearsal.answer) (early : other.now < due) :
      ∀ time step, other.answer = some (time, step) → other.now < time := by
    intro time step found
    cases (pending.symm.trans same.symm).trans found
    exact early
  cases begins : firstDue? rehearsal.now rehearsal.actors with
  | some first =>
      rcases turn?_of_firstDue settled (future rfl ahead) begins with
        ⟨next, turned, keeps, now, fewer⟩
      refine ⟨1, ?_⟩
      rw [turns_succ turned]
      exact ⟨keeps, Or.inr ⟨now.trans_le (Nat.le_of_lt ahead), Nat.le_succ 1, fewer⟩⟩
  | none =>
      rcases clock_stops settled pending ahead begins with ⟨time, turned, stop⟩
      have clocked : Keeps operation position rehearsal { rehearsal with now := time } :=
        ⟨rfl, rfl, rfl, rfl, rfl, rfl, rfl, rfl, rfl⟩
      rcases stop with now | ⟨early, first, begins⟩
      · refine ⟨1, ?_⟩
        rw [turns_succ turned]
        exact ⟨clocked, Or.inl ⟨now, rfl, rfl⟩⟩
      · rcases turn?_of_firstDue (settled.of_keeps clocked) (future rfl early) begins with
          ⟨next, begun, keeps, now, fewer⟩
        refine ⟨2, ?_⟩
        rw [turns_succ turned, turns_succ begun]
        exact ⟨clocked.trans keeps,
          Or.inr ⟨now.trans_le (Nat.le_of_lt early), Nat.le_refl 2, fewer⟩⟩

/-- An answer that is to come becomes due. It takes a turn for each actor that begins until then, and
one for the clock before each of them and before the answer. -/
theorem exists_due {due : Nat} {step : ControlStep} (settled : rehearsal.Settled operation position)
    (pending : rehearsal.answer = some (due, step)) (ahead : rehearsal.now ≤ due) :
    ∃ count, count + 2 * (rehearsal.turns count).delayed ≤ 2 * rehearsal.delayed + 1 ∧
      Keeps operation position rehearsal (rehearsal.turns count) ∧
        (rehearsal.turns count).now = due := by
  generalize waiting : rehearsal.delayed = delayed
  induction delayed using Nat.strongRecOn generalizing rehearsal with
  | ind delayed ih =>
      rcases Nat.eq_or_lt_of_le ahead with now | early
      · exact ⟨0, by rw [turns, waiting]; omega, Keeps.rfl, now⟩
      · rcases turn_towards settled pending early with
          ⟨count, keeps, ⟨now, rfl, same⟩ | ⟨ahead, few, fewer⟩⟩
        · exact ⟨1, by omega, keeps, now⟩
        · rcases ih _ (by omega) (settled.of_keeps keeps) (keeps.answer.trans pending) ahead rfl with
            ⟨more, bound, later, now⟩
          rw [← turns_add] at bound later now
          exact ⟨count + more, by omega, keeps.trans later, now⟩

end Rehearsal

end Rendezvous
