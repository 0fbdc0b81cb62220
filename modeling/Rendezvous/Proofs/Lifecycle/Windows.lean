import Mathlib
import Rendezvous.Proofs.Lifecycle.Rehearsal

/-!
# The two windows of a shutdown

A shutdown waits for its grace period and, if the server has not ended by then, for as long again.
The server ends when the calls in flight have drained or, once they are being ended, when that is
done, whichever comes first. So two times decide how long a shutdown takes and what comes of it
(`Rehearsal.shutdown_windows`).
-/

namespace Rendezvous

theorem Duration.wholeMilliseconds_ofMilliseconds (milliseconds : Nat) :
    (ofMilliseconds milliseconds).wholeMilliseconds = milliseconds :=
  Nat.mul_div_cancel milliseconds (by decide)

/-- How long a server takes to end after a call, if it does. -/
def ServerScript.endsAfter (script : ServerScript) : ServerCall → Option Nat
  | .shutdown => script.drainsAfter
  | .shutdownNow => script.diesAfter
  | _ => none

/-- An operation calls a server to end and comes to wait for that. -/
def Control.ask (control : Control) (operation : OperationNumber) (progress : Progress)
    (call : ServerCall) (grace : Duration) : Control :=
  ((control.advance operation progress).record operation (.called call)).record operation
    (.called (.awaitTermination grace))

namespace Rehearsal

variable {rehearsal next before after final : Rehearsal} {operation : OperationNumber}
  {position : Nat}

/-! ## What a server answers -/

/-- The answer of a server that is asked whether it ends by a time, and when it is given. -/
def answerBy (ending : Option Nat) (latest : Nat) : Nat × ControlStep :=
  match ending with
  | some ending =>
      if ending ≤ latest then (ending, .serverAwaited true) else (latest, .serverAwaited false)
  | none => (latest, .serverAwaited false)

theorem answerBy_of_le {ending latest : Nat} (early : ending ≤ latest) :
    answerBy (some ending) latest = (ending, .serverAwaited true) :=
  if_pos early

theorem answerBy_of_lt {ending : Option Nat} {latest : Nat}
    (late : ∀ time, ending = some time → latest < time) :
    answerBy ending latest = (latest, .serverAwaited false) := by
  cases ending with
  | none => rfl
  | some ending => exact if_neg (Nat.not_le.mpr (late ending rfl))

theorem hear_awaitTermination
    (future : ∀ ending, rehearsal.ending = some ending → rehearsal.now ≤ ending) (limit : Duration) :
    rehearsal.hear (.awaitTermination limit) =
      { rehearsal with
        calls := rehearsal.calls ++ [(rehearsal.now, .awaitTermination limit)]
        answer := some (answerBy rehearsal.ending (rehearsal.now + limit.wholeMilliseconds)) } := by
  obtain ⟨_, now, ending, _, _, _, _, _⟩ := rehearsal
  cases ending with
  | none => rfl
  | some ending =>
      have last : max now ending = ending := Nat.max_eq_right (future ending rfl)
      simp only [hear, answerBy, last]
      split <;> rfl

/-- The calls with which a window opens. -/
inductive EndingCall : ServerCall → Prop
  | shutdown : EndingCall .shutdown
  | shutdownNow : EndingCall .shutdownNow

theorem EndingCall.hear {call : ServerCall} (ends : EndingCall call) :
    rehearsal.hear call =
      { rehearsal with
        calls := rehearsal.calls ++ [(rehearsal.now, call)]
        ending := earlier rehearsal.ending
          ((rehearsal.script.endsAfter call).map (rehearsal.now + ·)) } := by
  cases ends <;> rfl

theorem le_of_earlier {left right : Option Nat} {least time : Nat}
    (first : ∀ ending, left = some ending → least ≤ ending)
    (second : ∀ ending, right = some ending → least ≤ ending)
    (earliest : earlier left right = some time) : least ≤ time := by
  cases left with
  | none => exact second time earliest
  | some left =>
      cases right with
      | none => exact first time earliest
      | some right =>
          cases earliest
          exact Nat.le_min.mpr ⟨first left rfl, second right rfl⟩

/-- The earlier of two times that are counted from a later moment. -/
theorem earlier_map_add (now wait : Nat) (left right : Option Nat) :
    earlier (left.map (now + ·)) (right.map (now + wait + ·)) =
      (earlier left (right.map (wait + ·))).map (now + ·) := by
  cases left with
  | none =>
      cases right with
      | none => rfl
      | some right => exact congrArg some (Nat.add_assoc now wait right)
  | some left =>
      cases right with
      | none => rfl
      | some right =>
          change some (min (now + left) (now + wait + right)) = some (now + min left (wait + right))
          rw [Nat.add_assoc, Nat.add_min_add_left]

/-! ## Stages of a shutdown -/

/-- A shutdown that has claimed its turn is next to get hold of the server, which is free and has not
been asked to end. -/
structure Claims (operation : OperationNumber) (position : Nat) (grace : Duration)
    (rehearsal : Rehearsal) : Prop where
  notCreated : rehearsal.control.phase ≠ .created
  notStarted : rehearsal.control.phase ≠ .started
  free : rehearsal.control.holder = none
  first : rehearsal.queue = [operation]
  queued : rehearsal.control.operations[operation]? = some (.shutdownQueued grace)
  unasked : rehearsal.answer = none
  running : rehearsal.ending = none
  actor : rehearsal.actors[position]? = some (.acting operation)

/-- An operation waits for the answer of the server. -/
structure Awaits (operation : OperationNumber) (position : Nat) (progress : Progress)
    (answer : Nat × ControlStep) (rehearsal : Rehearsal) : Prop where
  notCreated : rehearsal.control.phase ≠ .created
  notStarted : rehearsal.control.phase ≠ .started
  holds : rehearsal.control.holder = some operation
  queue : rehearsal.queue = []
  found : rehearsal.control.operations[operation]? = some progress
  running : progress.hasEnded = false
  pending : rehearsal.answer = some answer
  actor : rehearsal.actors[position]? = some (.acting operation)

theorem Awaits.settled {progress : Progress} {answer : Nat × ControlStep}
    (awaits : rehearsal.Awaits operation position progress answer) :
    rehearsal.Settled operation position where
  notCreated := awaits.notCreated
  notStarted := awaits.notStarted
  queue := awaits.queue
  carried := ⟨_, _, awaits.actor, awaits.found, .acting awaits.running⟩

theorem Awaits.of_keeps {progress : Progress} {answer : Nat × ControlStep}
    (awaits : before.Awaits operation position progress answer)
    (keeps : Keeps operation position before after) :
    after.Awaits operation position progress answer where
  notCreated := keeps.phase ▸ awaits.notCreated
  notStarted := keeps.phase ▸ awaits.notStarted
  holds := keeps.holder.trans awaits.holds
  queue := keeps.queue.trans awaits.queue
  found := keeps.progress.trans awaits.found
  running := awaits.running
  pending := keeps.answer.trans awaits.pending
  actor := keeps.actor.trans awaits.actor

/-- A shutdown has ended, and its actor with it. -/
structure Over (operation : OperationNumber) (position time : Nat) (result : ShutdownResult)
    (phase : Phase) (calls : List (Nat × ServerCall)) (rehearsal : Rehearsal) : Prop where
  actor : rehearsal.actors[position]? = some (.ended time phase (some operation))
  result : rehearsal.control.operations[operation]? = some (.shutdownEnded result)
  phase : rehearsal.control.phase = phase
  calls : rehearsal.calls = calls

theorem Over.of_keeps {time : Nat} {result : ShutdownResult} {phase : Phase}
    {calls : List (Nat × ServerCall)}
    (gone : before.Over operation position time result phase calls)
    (keeps : Keeps operation position before after) :
    after.Over operation position time result phase calls where
  actor := keeps.actor.trans gone.actor
  result := keeps.progress.trans gone.result
  phase := keeps.phase.trans gone.phase
  calls := keeps.calls.trans gone.calls

/-- An operation that holds the server calls it to end and waits for that. -/
theorem window_opens (rehearsal : Rehearsal) (control : Control) (progress : Progress)
    {call : ServerCall} {old : Progress} {grace : Nat} {ending : Option Nat} (ends : EndingCall call)
    (deeds : control.deeds = rehearsal.control.deeds)
    (notCreated : control.phase ≠ .created) (notStarted : control.phase ≠ .started)
    (holds : control.holder = some operation) (queue : rehearsal.queue = [])
    (found : control.operations[operation]? = some old) (running : progress.hasEnded = false)
    (acts : rehearsal.actors[position]? = some (.acting operation))
    (future : ∀ ending, rehearsal.ending = some ending → rehearsal.now ≤ ending)
    (lasts : earlier rehearsal.ending
      ((rehearsal.script.endsAfter call).map (rehearsal.now + ·)) = ending) :
    let opened := rehearsal.proceed (control.ask operation progress call (.ofMilliseconds grace))
    opened.Awaits operation position progress (answerBy ending (rehearsal.now + grace)) ∧
      opened.ending = ending ∧
        opened.calls = rehearsal.calls ++
          [(rehearsal.now, call), (rehearsal.now, .awaitTermination (.ofMilliseconds grace))] ∧
        opened.script = rehearsal.script ∧ opened.now = rehearsal.now ∧
          opened.delayed = rehearsal.delayed ∧ opened.control.phase = control.phase := by
  intro opened
  have later : ∀ time, ending = some time → rehearsal.now ≤ time := by
    rw [← lasts]
    refine fun time => le_of_earlier future fun time ends => ?_
    rcases Option.map_eq_some_iff.mp ends with ⟨lasts, _, rfl⟩
    exact Nat.le_add_right _ lasts
  have added : (control.ask operation progress call (.ofMilliseconds grace)).deeds =
      rehearsal.control.deeds ++
        [call, .awaitTermination (.ofMilliseconds grace)].map
          fun call => (operation, .called call) := by
    rw [← deeds]
    exact List.append_assoc _ _ _
  have asked : opened = ({ rehearsal with
      control := control.ask operation progress call (.ofMilliseconds grace)
      ending
      calls := rehearsal.calls ++
        [(rehearsal.now, call), (rehearsal.now, .awaitTermination (.ofMilliseconds grace))]
      answer := some (answerBy ending (rehearsal.now + grace)) } : Rehearsal).endActors := by
    refine (proceed_of_deeds _ added).trans ?_
    rw [List.foldl_cons, List.foldl_cons, List.foldl_nil, ends.hear]
    dsimp only
    rw [lasts, hear_awaitTermination later, Duration.wholeMilliseconds_ofMilliseconds,
      List.append_assoc]
    rfl
  have present :
      (control.ask operation progress call (.ofMilliseconds grace)).operations[operation]? =
        some progress :=
    List.getElem?_set_self (List.getElem?_eq_some_iff.mp found).1
  rw [asked]
  refine ⟨⟨notCreated, notStarted, holds, queue, present, running, rfl, ?_⟩, rfl, rfl, rfl, rfl, ?_,
    rfl⟩
  · exact endActors_of_running acts present running
  · exact delayed_endActors _

/-- The first window opens as soon as the shutdown gets hold of the server. -/
theorem Claims.window_opens {grace : Nat}
    (claims : rehearsal.Claims operation position (.ofMilliseconds grace)) :
    ∃ opened, rehearsal.turn? = some opened ∧
      opened.Awaits operation position (.draining (.ofMilliseconds grace))
        (answerBy (rehearsal.script.drainsAfter.map (rehearsal.now + ·)) (rehearsal.now + grace)) ∧
      opened.ending = rehearsal.script.drainsAfter.map (rehearsal.now + ·) ∧
      opened.calls = rehearsal.calls ++
        [(rehearsal.now, .shutdown), (rehearsal.now, .awaitTermination (.ofMilliseconds grace))] ∧
      opened.script = rehearsal.script ∧ opened.now = rehearsal.now ∧
        opened.delayed = rehearsal.delayed := by
  have acquired : rehearsal.control.acquire? operation =
      some (({ rehearsal.control with holder := some operation } : Control).ask operation
        (.draining (.ofMilliseconds grace)) .shutdown (.ofMilliseconds grace)) := by
    rw [Control.acquire?, claims.free, claims.queued]
    rfl
  have turned : rehearsal.turn? =
      some (({ rehearsal with queue := [] } : Rehearsal).proceed
        (({ rehearsal.control with holder := some operation } : Control).ask operation
          (.draining (.ofMilliseconds grace)) .shutdown (.ofMilliseconds grace))) := by
    have unanswered : rehearsal.giveAnswer? = none := by
      rw [giveAnswer?, claims.unasked]
    have handed : rehearsal.handOver? = (rehearsal.control.acquire? operation).map
        ({ rehearsal with queue := [] } : Rehearsal).proceed := by
      rw [handOver?, claims.first]
    rw [turn?, unanswered, handed, acquired]
    rfl
  have future : ∀ ending, rehearsal.ending = some ending → rehearsal.now ≤ ending := by
    intro ending ends
    cases claims.running.symm.trans ends
  have lasts : earlier rehearsal.ending (rehearsal.script.drainsAfter.map (rehearsal.now + ·)) =
      rehearsal.script.drainsAfter.map (rehearsal.now + ·) := by
    rw [claims.running]
    rfl
  rcases Rehearsal.window_opens { rehearsal with queue := [] }
    { rehearsal.control with holder := some operation } (.draining (.ofMilliseconds grace)) .shutdown
    rfl claims.notCreated claims.notStarted rfl rfl claims.queued rfl claims.actor future lasts with
    ⟨opened, ending, calls, script, now, delayed, _⟩
  exact ⟨_, turned, opened, ending, calls, script, now, delayed⟩

theorem turn?_of_answer {due : Nat} {step : ControlStep} {control : Control}
    (pending : rehearsal.answer = some (due, step)) (past : due ≤ rehearsal.now)
    (stepped : rehearsal.control.step? step = some control) :
    rehearsal.turn? = some (({ rehearsal with answer := none } : Rehearsal).proceed control) := by
  rw [turn?, giveAnswer?, pending]
  dsimp only
  rw [if_pos past, stepped]
  rfl

/-- The second window opens when the answer is due that the server has not ended. -/
theorem Awaits.window_opens {grace due : Nat}
    (awaits : rehearsal.Awaits operation position (.draining (.ofMilliseconds grace))
      (due, .serverAwaited false))
    (past : due ≤ rehearsal.now)
    (future : ∀ ending, rehearsal.ending = some ending → rehearsal.now ≤ ending) :
    ∃ opened, rehearsal.turn? = some opened ∧
      opened.Awaits operation position (.forcing (.ofMilliseconds grace))
        (answerBy (earlier rehearsal.ending
          (rehearsal.script.diesAfter.map (rehearsal.now + ·))) (rehearsal.now + grace)) ∧
      opened.control.phase = .shuttingDownForced ∧
      opened.calls = rehearsal.calls ++
        [(rehearsal.now, .shutdownNow), (rehearsal.now, .awaitTermination (.ofMilliseconds grace))] ∧
      opened.now = rehearsal.now ∧ opened.delayed = rehearsal.delayed := by
  have stepped : rehearsal.control.step? (.serverAwaited false) =
      some (({ rehearsal.control with phase := .shuttingDownForced } : Control).ask operation
        (.forcing (.ofMilliseconds grace)) .shutdownNow (.ofMilliseconds grace)) := by
    simp only [Control.step?, Control.serverAwaited?, awaits.holds, awaits.found, Control.ask]
  rcases Rehearsal.window_opens { rehearsal with answer := none }
    { rehearsal.control with phase := .shuttingDownForced } (.forcing (.ofMilliseconds grace))
    .shutdownNow rfl Phase.noConfusion Phase.noConfusion awaits.holds awaits.queue awaits.found rfl
    awaits.actor future rfl with
    ⟨opened, _, calls, _, now, delayed, phase⟩
  exact ⟨_, turn?_of_answer awaits.pending past stepped, opened, phase, calls, now, delayed⟩

/-- The rehearsal after the shutdown that holds the server has ended. -/
def conclude (rehearsal : Rehearsal) (operation : OperationNumber) (result : ShutdownResult)
    (phase : Phase) : Rehearsal :=
  { rehearsal with
    answer := none
    control := { rehearsal.control with holder := none, phase }.advance operation
      (.shutdownEnded result) }

/-- An answer that ends the shutdown ends its actor as well, and no turn changes that. -/
theorem Awaits.ends {progress : Progress} {due : Nat} {step : ControlStep} {result : ShutdownResult}
    {phase : Phase} (awaits : rehearsal.Awaits operation position progress (due, step))
    (now : rehearsal.now = due)
    (stepped : rehearsal.control.step? step =
      some (rehearsal.conclude operation result phase).control)
    (notCreated : phase ≠ .created) (notStarted : phase ≠ .started) (count : Nat) :
    (rehearsal.turns (count + 1)).Over operation position due result phase rehearsal.calls := by
  have ended : (rehearsal.conclude operation result phase).control.operations[operation]? =
      some (.shutdownEnded result) :=
    List.getElem?_set_self (List.getElem?_eq_some_iff.mp awaits.found).1
  have actor : (rehearsal.conclude operation result phase).endActors.actors[position]? =
      some (.ended due phase (some operation)) := by
    rw [← now]
    exact endActors_of_ended awaits.actor ended rfl
  have turned : rehearsal.turn? = some (rehearsal.conclude operation result phase).endActors :=
    (turn?_of_answer awaits.pending (Nat.le_of_eq now.symm) stepped).trans
      (congrArg some (proceed_of_deeds_eq rfl))
  rw [turns_succ turned]
  refine Over.of_keeps ⟨actor, ended, rfl, rfl⟩ (keeps_turns ?_ rfl count)
  exact ⟨notCreated, notStarted, awaits.queue, _, _, actor, ended, .ended _ _⟩

/-! ## How a shutdown ends -/

/-- A server that drains in the first window is not forced. -/
theorem Claims.over_of_drained {grace drains count : Nat}
    (claims : rehearsal.Claims operation position (.ofMilliseconds grace))
    (ends : rehearsal.script.drainsAfter = some drains) (early : drains ≤ grace)
    (enough : 2 * rehearsal.delayed + 5 ≤ count) :
    (rehearsal.turns count).Over operation position (rehearsal.now + drains) (.ok .graceful)
      .stopped (rehearsal.calls ++
        [(rehearsal.now, .shutdown),
          (rehearsal.now, .awaitTermination (.ofMilliseconds grace))]) := by
  rcases claims.window_opens with ⟨opened, turned, awaits, _, calls, _, now, delayed⟩
  rw [ends, Option.map_some, answerBy_of_le (Nat.add_le_add_left early _)] at awaits
  rcases exists_due awaits.settled awaits.pending (now.trans_le (Nat.le_add_right _ _)) with
    ⟨waited, bound, keeps, due⟩
  have answered := awaits.of_keeps keeps
  obtain ⟨rest, rfl⟩ : ∃ rest, count = waited + (rest + 1) + 1 := ⟨count - waited - 2, by omega⟩
  rw [turns_succ turned, turns_add, ← calls, ← keeps.calls]
  refine answered.ends due ?_ Phase.noConfusion Phase.noConfusion rest
  simp only [Control.step?, Control.serverAwaited?, answered.holds, answered.found, conclude]

/-- The second window of a shutdown whose server does not drain in the first. -/
theorem Claims.forces {grace : Nat}
    (claims : rehearsal.Claims operation position (.ofMilliseconds grace))
    (late : ∀ drains, rehearsal.script.drainsAfter = some drains → grace < drains) :
    ∃ turns, turns + 2 * (rehearsal.turns turns).delayed ≤ 2 * rehearsal.delayed + 3 ∧
      (rehearsal.turns turns).Awaits operation position (.forcing (.ofMilliseconds grace))
        (answerBy ((earlier rehearsal.script.drainsAfter
          (rehearsal.script.diesAfter.map (grace + ·))).map (rehearsal.now + ·))
            (rehearsal.now + 2 * grace)) ∧
      (rehearsal.turns turns).control.phase = .shuttingDownForced ∧
      (rehearsal.turns turns).now = rehearsal.now + grace ∧
      (rehearsal.turns turns).calls = rehearsal.calls ++
        [(rehearsal.now, .shutdown), (rehearsal.now, .awaitTermination (.ofMilliseconds grace)),
          (rehearsal.now + grace, .shutdownNow),
          (rehearsal.now + grace, .awaitTermination (.ofMilliseconds grace))] := by
  rcases claims.window_opens with ⟨opened, turned, awaits, ending, calls, script, now, delayed⟩
  have future : ∀ time, opened.ending = some time → rehearsal.now + grace < time := by
    rw [ending]
    intro time ends
    rcases Option.map_eq_some_iff.mp ends with ⟨drains, drained, rfl⟩
    exact Nat.add_lt_add_left (late drains drained) _
  rw [← ending, answerBy_of_lt future] at awaits
  rcases exists_due awaits.settled awaits.pending (now.trans_le (Nat.le_add_right _ _)) with
    ⟨waited, bound, keeps, due⟩
  rcases (awaits.of_keeps keeps).window_opens (Nat.le_of_eq due.symm)
    (fun time ends => due.trans_le (Nat.le_of_lt (future time (keeps.ending.symm.trans ends)))) with
    ⟨forced, answered, awaits, phase, called, same, others⟩
  rw [keeps.ending, ending, keeps.script, script, due, earlier_map_add, Nat.add_assoc,
    ← Nat.two_mul] at awaits
  refine ⟨waited + 1 + 1, ?_⟩
  rw [turns_succ turned, turns_add, turns_succ answered, turns]
  refine ⟨by omega, awaits, phase, same.trans due, ?_⟩
  rw [called, keeps.calls, calls, due, List.append_assoc]
  rfl

/-- A server that ends in the second window ends the shutdown when it does. -/
theorem Claims.over_of_killed {grace time count : Nat}
    (claims : rehearsal.Claims operation position (.ofMilliseconds grace))
    (late : ∀ drains, rehearsal.script.drainsAfter = some drains → grace < drains)
    (ends : earlier rehearsal.script.drainsAfter
      (rehearsal.script.diesAfter.map (grace + ·)) = some time)
    (inTime : time ≤ 2 * grace) (enough : 2 * rehearsal.delayed + 5 ≤ count) :
    (rehearsal.turns count).Over operation position (rehearsal.now + time) (.ok .forced) .stopped
      (rehearsal.calls ++
        [(rehearsal.now, .shutdown), (rehearsal.now, .awaitTermination (.ofMilliseconds grace)),
          (rehearsal.now + grace, .shutdownNow),
          (rehearsal.now + grace, .awaitTermination (.ofMilliseconds grace))]) := by
  rcases claims.forces late with ⟨turns, bound, awaits, _, now, calls⟩
  rw [ends, Option.map_some, answerBy_of_le (Nat.add_le_add_left inTime _)] at awaits
  have past : grace ≤ time := by
    refine le_of_earlier (fun drains drained => Nat.le_of_lt (late drains drained)) ?_ ends
    intro killed dies
    rcases Option.map_eq_some_iff.mp dies with ⟨lasts, _, rfl⟩
    exact Nat.le_add_right _ lasts
  rcases exists_due awaits.settled awaits.pending (now.trans_le (Nat.add_le_add_left past _)) with
    ⟨waited, more, keeps, due⟩
  have answered := awaits.of_keeps keeps
  obtain ⟨rest, rfl⟩ : ∃ rest, count = turns + (waited + (rest + 1)) :=
    ⟨count - turns - waited - 1, by omega⟩
  rw [turns_add, turns_add, ← calls, ← keeps.calls]
  refine answered.ends due ?_ Phase.noConfusion Phase.noConfusion rest
  simp only [Control.step?, Control.serverAwaited?, answered.holds, answered.found, conclude]

/-- A server that ends in neither window is given up. -/
theorem Claims.over_of_stuck {grace count : Nat}
    (claims : rehearsal.Claims operation position (.ofMilliseconds grace))
    (late : ∀ drains, rehearsal.script.drainsAfter = some drains → grace < drains)
    (stuck : ∀ time, earlier rehearsal.script.drainsAfter
      (rehearsal.script.diesAfter.map (grace + ·)) = some time → 2 * grace < time)
    (enough : 2 * rehearsal.delayed + 5 ≤ count) :
    (rehearsal.turns count).Over operation position (rehearsal.now + 2 * grace)
      (.error (.shutdownTimedOut (.ofMilliseconds grace))) .shuttingDownForced
      (rehearsal.calls ++
        [(rehearsal.now, .shutdown), (rehearsal.now, .awaitTermination (.ofMilliseconds grace)),
          (rehearsal.now + grace, .shutdownNow),
          (rehearsal.now + grace, .awaitTermination (.ofMilliseconds grace))]) := by
  rcases claims.forces late with ⟨turns, bound, awaits, phase, now, calls⟩
  rw [answerBy_of_lt] at awaits
  · rcases exists_due awaits.settled awaits.pending (by omega) with ⟨waited, more, keeps, due⟩
    have answered := awaits.of_keeps keeps
    have forced : ((rehearsal.turns turns).turns waited).control.phase = .shuttingDownForced :=
      keeps.phase.trans phase
    obtain ⟨rest, rfl⟩ : ∃ rest, count = turns + (waited + (rest + 1)) :=
      ⟨count - turns - waited - 1, by omega⟩
    rw [turns_add, turns_add, ← calls, ← keeps.calls]
    refine answered.ends due ?_ Phase.noConfusion Phase.noConfusion rest
    simp only [Control.step?, Control.serverAwaited?, answered.holds, answered.found, conclude,
      forced]
  · intro time ends
    rcases Option.map_eq_some_iff.mp ends with ⟨ending, found, rfl⟩
    exact Nat.add_lt_add_left (stuck ending found) _

/-! ## Shutdowns that find the server free -/

/-- A started lifecycle whose server is free and runs. -/
structure Runs (rehearsal : Rehearsal) : Prop where
  started : rehearsal.control.phase = .started
  free : rehearsal.control.holder = none
  queue : rehearsal.queue = []
  unasked : rehearsal.answer = none
  running : rehearsal.ending = none

theorem Runs.claims {start : Nat} {grace : Duration} (runs : rehearsal.Runs)
    (found : rehearsal.actors[position]? = some (.delayed start (.shutdown grace))) :
    let claimed := rehearsal.beginAt position (.shutdown grace)
    claimed.Claims rehearsal.control.nextOperation position grace ∧ claimed.now = rehearsal.now ∧
      claimed.script = rehearsal.script ∧ claimed.calls = rehearsal.calls ∧
        claimed.delayed + 1 = rehearsal.delayed := by
  intro claimed
  have begun : rehearsal.control.beginShutdown grace =
      ({ rehearsal.control with phase := .shuttingDownGraceful } : Control).enlist
        (.shutdownQueued grace) := by
    rw [Control.beginShutdown, Phase.move, if_pos runs.started]
  have queued : (({ rehearsal.control with phase := .shuttingDownGraceful } : Control).enlist
      (.shutdownQueued grace)).operations[rehearsal.control.nextOperation]? =
        some (.shutdownQueued grace) :=
    List.getElem?_concat_length
  have acts : (rehearsal.actors.set position
      (.acting rehearsal.control.nextOperation))[position]? =
        some (.acting rehearsal.control.nextOperation) :=
    List.getElem?_set_self (List.getElem?_eq_some_iff.mp found).1
  have claim : claimed = ({ rehearsal with
      control := ({ rehearsal.control with phase := .shuttingDownGraceful } : Control).enlist
        (.shutdownQueued grace)
      actors := rehearsal.actors.set position (.acting rehearsal.control.nextOperation)
      queue := [rehearsal.control.nextOperation] } : Rehearsal).endActors := by
    change proceed _ (rehearsal.control.beginShutdown grace) = _
    rw [begun, queued, runs.queue]
    exact proceed_of_deeds_eq rfl
  rw [claim]
  refine ⟨⟨Phase.noConfusion, Phase.noConfusion, runs.free, rfl, queued, runs.unasked, runs.running,
    endActors_of_running acts queued rfl⟩, rfl, rfl, rfl, ?_⟩
  rw [delayed_endActors]
  exact countP_set_of_delayed found rfl

/-- The turns that a rehearsal gives its actors are enough for a shutdown that begins it. -/
theorem Runs.enact (runs : rehearsal.Runs) (grace : Duration) (others : List Cue) :
    ∃ (claimed : Rehearsal) (count : Nat), claimed.Claims rehearsal.control.nextOperation 0 grace ∧
      2 * claimed.delayed + 5 ≤ count ∧ claimed.now = rehearsal.now ∧
        claimed.script = rehearsal.script ∧ claimed.calls = [] ∧
          rehearsal.enact ({ command := .shutdown grace } :: others) = claimed.turns count := by
  let called : Rehearsal := { rehearsal with
    calls := []
    actors := ({ command := .shutdown grace } :: others).map (Cue.actor · rehearsal.now) }
  have ready : called.Runs := ⟨runs.started, runs.free, runs.queue, runs.unasked, runs.running⟩
  have first : firstDue? called.now called.actors = some (0, .shutdown grace) :=
    if_pos (Nat.le_refl _)
  have unanswered : called.giveAnswer? = none := by
    rw [giveAnswer?, ready.unasked]
  have free : called.handOver? = none := by
    rw [handOver?, ready.queue]
  have turned : called.turn? = some (called.beginAt 0 (.shutdown grace)) := by
    rw [turn?, unanswered, free, begin?, first]
    rfl
  have found : called.actors[0]? = some (.delayed called.now (.shutdown grace)) := rfl
  rcases ready.claims found with ⟨claims, now, script, calls, delayed⟩
  have few : called.delayed ≤ others.length + 1 :=
    List.countP_le_length.trans (Nat.le_of_eq (by rw [List.length_map, List.length_cons]))
  refine ⟨_, 7 * others.length + 6, claims, by omega, now, script, calls, turns_succ turned _⟩

/-! ## Times that may never come -/

/-- How long something takes that may never end. -/
def lasting : Option Nat → ℕ∞
  | some time => time
  | none => ⊤

theorem coe_eq_lasting {time : Nat} {lasts : Option Nat} :
    (time : ℕ∞) = lasting lasts ↔ lasts = some time := by
  cases lasts with
  | none => exact ⟨fun same => absurd same (ENat.natCast_ne_top time), fun same => nomatch same⟩
  | some other =>
      rw [lasting, Nat.cast_inj, Option.some_inj]
      exact eq_comm

theorem coe_lt_lasting {time : Nat} {lasts : Option Nat} :
    (time : ℕ∞) < lasting lasts ↔ ∀ other, lasts = some other → time < other := by
  cases lasts with
  | none => exact ⟨fun _ _ same => (nomatch same), fun _ => ENat.natCast_lt_top time⟩
  | some other =>
      rw [lasting, Nat.cast_lt]
      exact ⟨fun less _ same => Option.some_inj.mp same ▸ less, fun less => less other rfl⟩

theorem lasting_earlier (left right : Option Nat) :
    lasting (earlier left right) = min (lasting left) (lasting right) := by
  cases left with
  | none => exact (top_inf_eq _).symm
  | some left =>
      cases right with
      | none => exact (inf_top_eq _).symm
      | some right => exact Nat.mono_cast.map_min

theorem lasting_map_add (wait : Nat) (lasts : Option Nat) :
    lasting (lasts.map (wait + ·)) = wait + lasting lasts := by
  cases lasts with
  | none => exact (add_top _).symm
  | some time => exact Nat.cast_add wait time

/-- Something happens within a time or after it, if it happens at all. -/
theorem happens_by_or_after (happens : Option Nat) (limit : Nat) :
    (∃ time, happens = some time ∧ time ≤ limit) ∨ ∀ time, happens = some time → limit < time := by
  cases happens with
  | none => exact Or.inr fun _ same => nomatch same
  | some time =>
      rcases Nat.lt_or_ge limit time with late | early
      · refine Or.inr fun other same => ?_
        cases same
        exact late
      · exact Or.inl ⟨time, rfl, early⟩

/-- A server that ends in the second window ends by then with a longer grace period as well. -/
theorem ends_in_time_of_le {grace longer time : Nat} {drains dies : Option Nat}
    (ends : earlier drains (dies.map (grace + ·)) = some time) (inTime : time ≤ 2 * grace)
    (more : grace ≤ longer) :
    ∃ later, earlier drains (dies.map (longer + ·)) = some later ∧ later ≤ 2 * longer := by
  cases drains with
  | none =>
      cases dies with
      | none => cases ends
      | some dies =>
          have same : grace + dies = time := Option.some.inj ends
          exact ⟨longer + dies, rfl, by omega⟩
  | some drains =>
      cases dies with
      | none =>
          have same : drains = time := Option.some.inj ends
          exact ⟨drains, rfl, by omega⟩
      | some dies =>
          have same : min drains (grace + dies) = time := Option.some.inj ends
          exact ⟨min drains (longer + dies), rfl, by omega⟩

/-! ## The two windows -/

/-- A shutdown that has claimed its turn and gets hold of the server ends as the two windows say, when
they say, and not otherwise; with a longer grace period it ends no worse. -/
theorem shutdown_windows {grace : Nat}
    (claims : rehearsal.Claims operation position (.ofMilliseconds grace)) {count : Nat}
    (enough : 2 * rehearsal.delayed + 5 ≤ count) :
    let drains := lasting rehearsal.script.drainsAfter
    let dies := lasting rehearsal.script.diesAfter
    let asked := rehearsal.calls ++
      [(rehearsal.now, .shutdown), (rehearsal.now, .awaitTermination (.ofMilliseconds grace))]
    let forced := asked ++
      [(rehearsal.now + grace, .shutdownNow),
        (rehearsal.now + grace, .awaitTermination (.ofMilliseconds grace))]
    let ends (time : Nat) (result : ShutdownResult) (phase : Phase)
        (calls : List (Nat × ServerCall)) : Prop :=
      (rehearsal.turns count).Over operation position (rehearsal.now + time) result phase calls
    (∀ time : Nat, time = drains → time ≤ grace → ends time (.ok .graceful) .stopped asked) ∧
      (∀ time : Nat, grace < drains → time = min drains (grace + dies) → time ≤ 2 * grace →
        ends time (.ok .forced) .stopped forced) ∧
      (grace < drains → (2 * grace : Nat) < min drains (grace + dies) →
        ends (2 * grace) (.error (.shutdownTimedOut (.ofMilliseconds grace)))
          .shuttingDownForced forced) ∧
      ∀ (other : Rehearsal) (longer number place more : Nat),
        other.Claims number place (.ofMilliseconds longer) → 2 * other.delayed + 5 ≤ more →
        other.script.drainsAfter = rehearsal.script.drainsAfter →
        other.script.diesAfter = rehearsal.script.diesAfter → grace ≤ longer →
        ∀ outcome, (rehearsal.turns count).control.operations[operation]? =
            some (.shutdownEnded (.ok outcome)) →
          ∃ better, (other.turns more).control.operations[number]? =
              some (.shutdownEnded (.ok better)) ∧
            (outcome = .graceful → better = .graceful) := by
  intro drains dies asked forced ends
  have first : min drains (grace + dies) = lasting (earlier rehearsal.script.drainsAfter
      (rehearsal.script.diesAfter.map (grace + ·))) := by
    rw [lasting_earlier, lasting_map_add]
  have called : forced = rehearsal.calls ++
      [(rehearsal.now, .shutdown), (rehearsal.now, .awaitTermination (.ofMilliseconds grace)),
        (rehearsal.now + grace, .shutdownNow),
        (rehearsal.now + grace, .awaitTermination (.ofMilliseconds grace))] :=
    List.append_assoc _ _ _
  rw [first, called]
  refine ⟨fun time drained early => ?_, fun time late ends inTime => ?_, fun late stuck => ?_, ?_⟩
  · exact claims.over_of_drained (coe_eq_lasting.mp drained) early enough
  · exact claims.over_of_killed (coe_lt_lasting.mp late) (coe_eq_lasting.mp ends) inTime enough
  · exact claims.over_of_stuck (coe_lt_lasting.mp late) (coe_lt_lasting.mp stuck) enough
  · intro other longer number place more waits rest drainsSame diesSame longest outcome ended
    rcases happens_by_or_after rehearsal.script.drainsAfter longer with
      ⟨time, drained, early⟩ | late
    · exact ⟨.graceful, (waits.over_of_drained (drainsSame.trans drained) early rest).result,
        fun _ => rfl⟩
    · have lateHere : ∀ time, rehearsal.script.drainsAfter = some time → grace < time :=
        fun time drained => longest.trans_lt (late time drained)
      rcases happens_by_or_after (earlier rehearsal.script.drainsAfter
        (rehearsal.script.diesAfter.map (grace + ·))) (2 * grace) with ⟨time, ends, inTime⟩ | stuck
      · have forced := (claims.over_of_killed lateHere ends inTime enough).result
        rcases ends_in_time_of_le ends inTime longest with ⟨later, ends, inTime⟩
        rw [← drainsSame] at late
        rw [← drainsSame, ← diesSame] at ends
        refine ⟨.forced, (waits.over_of_killed late ends inTime rest).result, ?_⟩
        rintro rfl
        cases ended.symm.trans forced
      · cases ended.symm.trans (claims.over_of_stuck lateHere stuck enough).result

/-- The calls in flight drain while they are being ended, and another shutdown comes meanwhile. -/
theorem shutdown_windows_of_forced_drain :
    let script : ServerScript :=
      { address := ⟨.v4 127 0 0 1, 8080⟩, drainsAfter := some 3, diesAfter := some 2 }
    let started := ({ script } : Rehearsal).enact [{ command := .start (.ok ()) }]
    (started.enact [{ command := .shutdown (.ofMilliseconds 2) },
        { delay := 1, command := .shutdown (.ofMilliseconds 7) }]).Over 1 0 3 (.ok .forced) .stopped
      [(0, .shutdown), (0, .awaitTermination (.ofMilliseconds 2)), (2, .shutdownNow),
        (2, .awaitTermination (.ofMilliseconds 2))] := by
  intro script started
  have up : (started.control.phase = .started ∧ started.control.holder = none ∧ started.queue = [] ∧
      started.answer.isNone = true ∧ started.ending = none) ∧
        started.now = 0 ∧ started.script.drainsAfter = some 3 ∧ started.script.diesAfter = some 2 ∧
          started.control.nextOperation = 1 := by
    decide +kernel
  rcases up with ⟨⟨phase, free, queue, unasked, running⟩, began, drains, dies, number⟩
  have runs : started.Runs := ⟨phase, free, queue, Option.isNone_iff_eq_none.mp unasked, running⟩
  rcases runs.enact (.ofMilliseconds 2) [{ delay := 1, command := .shutdown (.ofMilliseconds 7) }] with
    ⟨claimed, count, claims, enough, now, same, calls, enacted⟩
  have forced := (shutdown_windows claims enough).2.1 3
  rw [same, drains, dies, now, began, calls, number, ← lasting_map_add, ← lasting_earlier] at forced
  rw [enacted]
  exact forced (Nat.cast_lt.mpr (by decide)) (coe_eq_lasting.mpr rfl) (by decide)

end Rehearsal

end Rendezvous
