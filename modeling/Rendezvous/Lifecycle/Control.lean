import Rendezvous.Lifecycle
import Rendezvous.Source.Error

/-!
# Starting and shutting down

Any number of starts and shutdowns may be under way at once. Each claims its turn by a move of the
phase; whoever loses the claim is done at once. The one start and the one shutdown that have claimed
then wait for the server, which one of them holds at a time, and talk to it.

An operation can be left wherever it waits, and so it goes in steps: it begins, it gets hold of the
server, and the server answers it. `step?` says which steps are possible and what they do. The steps
of different operations may come in any order.
-/

namespace Rendezvous

/-- A call to a server. -/
inductive ServerCall
  /-- Bind and serve. -/
  | start
  /-- Take no more calls. -/
  | shutdown
  /-- End the calls in flight. -/
  | shutdownNow
  /-- Wait for the end of the server, at most for the given time. -/
  | awaitTermination (limit : Duration)
deriving DecidableEq, Repr

/-- How a start ended. -/
abbrev StartResult := Except SourceError SocketAddress

/-- How a shutdown ended, or that it failed. -/
abbrev ShutdownResult := Except SourceError ShutdownOutcome

/-- How far an operation has come. -/
inductive Progress
  /-- A start that has claimed its turn and waits for the server. -/
  | startQueued
  /-- A start that waits for the server to come up. -/
  | starting
  | startEnded (result : StartResult)
  /-- A shutdown that has claimed its turn and waits for the server. -/
  | shutdownQueued (grace : Duration)
  /-- A shutdown that waits for the calls in flight to end by themselves. -/
  | draining (grace : Duration)
  /-- A shutdown that waits for the calls in flight to be ended. -/
  | forcing (grace : Duration)
  | shutdownEnded (result : ShutdownResult)

namespace Progress

/-- Whether an operation waits for the server that another operation may hold. -/
def isQueued : Progress → Bool
  | .startQueued => true
  | .shutdownQueued _ => true
  | _ => false

def hasEnded : Progress → Bool
  | .startEnded _ => true
  | .shutdownEnded _ => true
  | _ => false

end Progress

/-- The number of an operation among those on one server. -/
abbrev OperationNumber := Nat

/-- Something that an operation has done. -/
inductive Deed
  /-- It has run what is to be done before the server starts. -/
  | prepared (succeeded : Bool)
  | called (call : ServerCall)
deriving DecidableEq, Repr

/-- A server and the operations on it. -/
structure Control where
  phase : Phase := .created
  /-- The address to which the server is bound, once it has started. -/
  address : Option SocketAddress := none
  /-- The operation that holds the server. -/
  holder : Option OperationNumber := none
  /-- The operations in the order in which they began. -/
  operations : List Progress := []
  /-- What the operations have done, oldest first. -/
  deeds : List (OperationNumber × Deed) := []

/-- A step of an operation. -/
inductive ControlStep
  /-- A start begins. What is to be done before the server starts would end as given. -/
  | beginStart (prepared : Except SourceError Unit)
  | beginShutdown (grace : Duration)
  /-- A queued operation gets hold of the server. -/
  | acquire (operation : OperationNumber)
  /-- The server has come up, or has failed to. -/
  | serverStarted (result : StartResult)
  /-- The server has ended in the time given, or has not. -/
  | serverAwaited (terminated : Bool)

namespace Control

/-- The operations with one more. -/
def enlist (control : Control) (progress : Progress) : Control :=
  { control with operations := control.operations ++ [progress] }

/-- An operation has come further. -/
def advance (control : Control) (operation : OperationNumber) (progress : Progress) : Control :=
  { control with operations := control.operations.set operation progress }

/-- An operation has done something. -/
def record (control : Control) (operation : OperationNumber) (deed : Deed) : Control :=
  { control with deeds := control.deeds ++ [(operation, deed)] }

def nextOperation (control : Control) : OperationNumber :=
  control.operations.length

/-- Whether an operation has run its preparation. -/
def hasPrepared (control : Control) (operation : OperationNumber) : Bool :=
  control.deeds.any fun
    | (number, .prepared _) => number == operation
    | _ => false

/-- A start begins. If it cannot claim its turn, it ends; if its preparation fails, the lifecycle
ends. -/
def beginStart (control : Control) (prepared : Except SourceError Unit) : Control :=
  match control.phase.move .created .started with
  | (_, false) => control.enlist (.startEnded (.error .alreadyStarted))
  | (phase, true) =>
      match prepared with
      | .ok () =>
          ({ control with phase }.record control.nextOperation (.prepared true)).enlist .startQueued
      | .error error =>
          ({ control with phase := .stopped }.record control.nextOperation
            (.prepared false)).enlist (.startEnded (.error error))

/-- A shutdown begins. If it cannot claim its turn, it ends. -/
def beginShutdown (control : Control) (grace : Duration) : Control :=
  match control.phase.move .started .shuttingDownGraceful with
  | (_, false) => control.enlist (.shutdownEnded (.ok .notRunning))
  | (phase, true) => { control with phase }.enlist (.shutdownQueued grace)

/-- A queued operation gets hold of the server, if nobody else holds it, and makes its first calls
to it. -/
def acquire? (control : Control) (operation : OperationNumber) : Option Control :=
  match control.holder, control.operations[operation]? with
  | none, some .startQueued =>
      some (({ control with holder := some operation }.advance operation .starting).record operation
        (.called .start))
  | none, some (.shutdownQueued grace) =>
      some ((({ control with holder := some operation }.advance operation (.draining grace)).record
        operation (.called .shutdown)).record operation (.called (.awaitTermination grace)))
  | _, _ => none

/-- The server answers the start that holds it, which lets go of it and ends. -/
def serverStarted? (control : Control) (result : StartResult) : Option Control :=
  match control.holder with
  | none => none
  | some operation =>
      match control.operations[operation]?, result with
      | some .starting, .ok address =>
          some ({ control with holder := none, address := some address }.advance operation
            (.startEnded result))
      | some .starting, .error _ =>
          some ({ control with holder := none, phase := .stopped }.advance operation
            (.startEnded result))
      | _, _ => none

/-- The server answers the shutdown that holds it. If the server has ended, the shutdown lets go of
it and ends; if not, the calls in flight are ended, unless that has been done. -/
def serverAwaited? (control : Control) (terminated : Bool) : Option Control :=
  match control.holder with
  | none => none
  | some operation =>
      match control.operations[operation]?, terminated with
      | some (.draining _), true =>
          some ({ control with holder := none, phase := .stopped }.advance operation
            (.shutdownEnded (.ok .graceful)))
      | some (.draining grace), false =>
          some ((({ control with phase := .shuttingDownForced }.advance operation
            (.forcing grace)).record operation (.called .shutdownNow)).record operation
              (.called (.awaitTermination grace)))
      | some (.forcing _), true =>
          some ({ control with holder := none, phase := .stopped }.advance operation
            (.shutdownEnded (.ok .forced)))
      | some (.forcing grace), false =>
          some ({ control with holder := none }.advance operation
            (.shutdownEnded (.error (.shutdownTimedOut grace))))
      | _, _ => none

/-- What a step does, if it is possible. -/
def step? (control : Control) : ControlStep → Option Control
  | .beginStart prepared => some (control.beginStart prepared)
  | .beginShutdown grace => some (control.beginShutdown grace)
  | .acquire operation => control.acquire? operation
  | .serverStarted result => control.serverStarted? result
  | .serverAwaited terminated => control.serverAwaited? terminated

/-- The controls that a sequence of steps leads to. -/
def run? (control : Control) : List ControlStep → Option Control
  | [] => some control
  | step :: rest =>
      match control.step? step with
      | none => none
      | some next => next.run? rest

end Control

end Rendezvous
