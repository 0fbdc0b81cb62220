import Rendezvous.Lifecycle.Control

/-!
# Rehearsals

A rehearsal runs starts and shutdowns against a server that follows a script, on a clock that counts
milliseconds and moves only when everything waits. The script says how long the server takes to come
up, how long it takes to end by itself once it takes no more calls, and how long it takes to end when
the calls in flight are ended.

Each turn does the first thing that can be done: the server gives an answer that is due, the
operation that has queued longest gets hold of the server, the first operation whose delay is over
begins, or the clock moves to the next instant at which something is due.
-/

namespace Rendezvous

/-- How a scripted server behaves. Times are in milliseconds. -/
structure ServerScript where
  /-- How long the server takes to come up. -/
  startDelay : Nat := 0
  /-- Why the server does not come up, if it does not. -/
  startError : Option String := none
  /-- The address to which the server is bound. -/
  address : SocketAddress
  /-- How long the calls in flight take to end by themselves, if they do. -/
  drainsAfter : Option Nat := none
  /-- How long the calls in flight take to be ended, if they can be. -/
  diesAfter : Option Nat := none

/-- What an actor of a rehearsal does. -/
inductive Command
  /-- It starts the server, after a preparation that ends as given. -/
  | start (prepared : Except SourceError Unit)
  /-- It shuts the server down. -/
  | shutdown (grace : Duration)
  /-- It does nothing. -/
  | rest

/-- What an actor does, and how long it waits before it begins. -/
structure Cue where
  /-- The wait in milliseconds. -/
  delay : Nat := 0
  /-- What the actor does. -/
  command : Command

/-- How far an actor has come. -/
inductive Actor
  /-- The actor begins at the given time. -/
  | delayed (start : Nat) (command : Command)
  /-- The actor carries out an operation. -/
  | acting (operation : OperationNumber)
  /-- The actor has ended at the given time, when the phase was as given. -/
  | ended (time : Nat) (phase : Phase) (operation : Option OperationNumber)

/-- The time at which an actor begins that has not begun. -/
def Actor.start? : Actor → Option Nat
  | .delayed start _ => some start
  | _ => none

def Cue.actor (cue : Cue) (now : Nat) : Actor :=
  .delayed (now + cue.delay) cue.command

/-- A rehearsal that is under way. -/
structure Rehearsal where
  /-- The behaviour of the server. -/
  script : ServerScript
  /-- The present time in milliseconds. -/
  now : Nat := 0
  /-- The time at which the server ends, if it does. -/
  ending : Option Nat := none
  /-- The operations on the server. -/
  control : Control := {}
  /-- The next answer of the server, and the time at which it is due. -/
  answer : Option (Nat × ControlStep) := none
  /-- The operations that wait for the server, longest first. -/
  queue : List OperationNumber := []
  /-- The calls that the server got, with their times. -/
  calls : List (Nat × ServerCall) := []
  actors : List Actor := []

namespace Rehearsal

/-- The earlier of two times, where a time that never comes is the latest. -/
def earlier : Option Nat → Option Nat → Option Nat
  | some left, some right => some (min left right)
  | some left, none => some left
  | none, right => right

/-- The server gets a call. -/
def hear (rehearsal : Rehearsal) (call : ServerCall) : Rehearsal :=
  let heard := { rehearsal with calls := rehearsal.calls ++ [(rehearsal.now, call)] }
  match call with
  | .start =>
      let result : StartResult :=
        match rehearsal.script.startError with
        | some reason => .error (.startup reason)
        | none => .ok rehearsal.script.address
      { heard with answer := some (rehearsal.now + rehearsal.script.startDelay, .serverStarted result) }
  | .shutdown =>
      { heard with
        ending := earlier rehearsal.ending (rehearsal.script.drainsAfter.map (rehearsal.now + ·)) }
  | .shutdownNow =>
      { heard with
        ending := earlier rehearsal.ending (rehearsal.script.diesAfter.map (rehearsal.now + ·)) }
  | .awaitTermination limit =>
      let latest := rehearsal.now + limit.wholeMilliseconds
      match rehearsal.ending with
      | some ending =>
          if ending ≤ latest then
            { heard with answer := some (max rehearsal.now ending, .serverAwaited true) }
          else { heard with answer := some (latest, .serverAwaited false) }
      | none => { heard with answer := some (latest, .serverAwaited false) }

/-- The actors, where the one that carries out an operation has ended if the operation has. -/
def endActors (rehearsal : Rehearsal) : Rehearsal :=
  { rehearsal with
    actors := rehearsal.actors.map fun
      | .acting operation =>
          if (rehearsal.control.operations[operation]?).any Progress.hasEnded then
            .ended rehearsal.now rehearsal.control.phase (some operation)
          else .acting operation
      | other => other }

/-- The calls to the server among the deeds that have come to those of an earlier state. -/
def newCalls (before after : Control) : List ServerCall :=
  (after.deeds.drop before.deeds.length).filterMap fun
    | (_, .called call) => some call
    | (_, .prepared _) => none

/-- The operations come further: the server gets the calls that they make, and actors end whose
operations end. -/
def proceed (rehearsal : Rehearsal) (control : Control) : Rehearsal :=
  ((newCalls rehearsal.control control).foldl hear { rehearsal with control }).endActors

def giveAnswer? (rehearsal : Rehearsal) : Option Rehearsal :=
  match rehearsal.answer with
  | none => none
  | some (time, step) =>
      if time ≤ rehearsal.now then
        (rehearsal.control.step? step).map { rehearsal with answer := none }.proceed
      else none

/-- The operation that has queued longest gets hold of the server. -/
def handOver? (rehearsal : Rehearsal) : Option Rehearsal :=
  match rehearsal.queue with
  | [] => none
  | operation :: rest =>
      (rehearsal.control.acquire? operation).map { rehearsal with queue := rest }.proceed

/-- An actor that has waited long enough begins, and queues for the server if it has to. -/
def beginAt (rehearsal : Rehearsal) (position : Nat) (command : Command) : Rehearsal :=
  let operation := rehearsal.control.nextOperation
  let perform (control : Control) : Rehearsal :=
    let queued := (control.operations[operation]?).any Progress.isQueued
    { rehearsal with
      actors := rehearsal.actors.set position (.acting operation)
      queue := if queued then rehearsal.queue ++ [operation] else rehearsal.queue }.proceed control
  match command with
  | .start prepared => perform (rehearsal.control.beginStart prepared)
  | .shutdown grace => perform (rehearsal.control.beginShutdown grace)
  | .rest =>
      { rehearsal with
        actors := rehearsal.actors.set position
          (.ended rehearsal.now rehearsal.control.phase none) }

/-- The first actor in a list whose delay is over, with its position. -/
def firstDue? (now : Nat) : List Actor → Option (Nat × Command)
  | [] => none
  | .delayed start command :: rest =>
      if start ≤ now then some (0, command)
      else (firstDue? now rest).map fun (position, command) => (position + 1, command)
  | _ :: rest => (firstDue? now rest).map fun (position, command) => (position + 1, command)

/-- The first actor begins whose delay is over. -/
def begin? (rehearsal : Rehearsal) : Option Rehearsal :=
  (firstDue? rehearsal.now rehearsal.actors).map fun (position, command) =>
    rehearsal.beginAt position command

def nextTime? (rehearsal : Rehearsal) : Option Nat :=
  rehearsal.actors.foldl (fun time actor => earlier time actor.start?)
    (rehearsal.answer.map Prod.fst)

/-- The clock moves to the next time at which something is due. -/
def moveClock? (rehearsal : Rehearsal) : Option Rehearsal :=
  rehearsal.nextTime?.map fun time => { rehearsal with now := max rehearsal.now time }

/-- The first thing that can be done is done. -/
def turn? (rehearsal : Rehearsal) : Option Rehearsal :=
  rehearsal.giveAnswer? <|> rehearsal.handOver? <|> rehearsal.begin? <|> rehearsal.moveClock?

/-- At most the given number of turns. -/
def turns (rehearsal : Rehearsal) : Nat → Rehearsal
  | 0 => rehearsal
  | count + 1 =>
      match rehearsal.turn? with
      | none => rehearsal
      | some next => next.turns count

/-- The most turns that one actor causes: it begins, gets hold of the server and gets two answers,
and the clock moves before it begins and before each answer. -/
def turnsPerActor : Nat :=
  7

/-- The rehearsal after actors have followed their cues, all beginning now, until all have ended. -/
def enact (rehearsal : Rehearsal) (cues : List Cue) : Rehearsal :=
  { rehearsal with
    calls := []
    actors := cues.map (Cue.actor · rehearsal.now) }.turns (turnsPerActor * cues.length)

end Rehearsal

end Rendezvous
