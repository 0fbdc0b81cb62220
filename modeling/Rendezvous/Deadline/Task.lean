import Rendezvous.Deadline

/-!
# The deadline task

One task per source keeps its deadlines. Arming only puts a deadline into the inbox of the task, and
that is possible before the task runs. A running task takes deadlines from the inbox one at a time
and hands out those that are due; while both are possible it may do either. Once no scheduler is
left that could arm more, it ends as soon as inbox and agenda are empty.

`settle` is one way to run a task until it has nothing to do.
-/

namespace Rendezvous

/-- How far a task has come. -/
inductive TaskPhase
  /-- The task has not been started. -/
  | idle
  /-- The task runs. -/
  | running
  /-- The task has ended. -/
  | finished
  /-- The task was given up before it was started. -/
  | dropped
deriving DecidableEq, Repr

/-- The keeper of the deadlines of a source. -/
structure DeadlineTask where
  /-- How far the task has come. -/
  phase : TaskPhase := .idle
  /-- How many schedulers can arm deadlines. -/
  schedulers : Nat := 1
  /-- Whether the task still waits for deadlines to be armed. -/
  accepting : Bool := true
  /-- The deadlines that were armed and not yet taken up, in that order. -/
  inbox : List Deadline := []
  /-- The deadlines that were taken up and are not yet due. -/
  agenda : Agenda := {}
deriving DecidableEq, Repr

namespace DeadlineTask

/-! ## The side of the schedulers -/

/-- Arms a deadline. Nobody takes it up once the task has ended or was given up. -/
def arm (task : DeadlineTask) (deadline : Deadline) : DeadlineTask :=
  match task.phase with
  | .idle | .running => { task with inbox := task.inbox ++ [deadline] }
  | .finished | .dropped => task

/-- One more scheduler can arm deadlines. -/
def addScheduler (task : DeadlineTask) : DeadlineTask :=
  { task with schedulers := task.schedulers + 1 }

/-- One scheduler less can arm deadlines. -/
def dropScheduler (task : DeadlineTask) : DeadlineTask :=
  { task with schedulers := task.schedulers - 1 }

/-! ## The side of the task -/

/-- Starts a task that has not been started. -/
def spawn? (task : DeadlineTask) : Option DeadlineTask :=
  if task.phase = .idle then some { task with phase := .running } else none

/-- Gives a task up that has not been started, together with what is in its inbox. -/
def abandon? (task : DeadlineTask) : Option DeadlineTask :=
  if task.phase = .idle then some { task with phase := .dropped, inbox := [] } else none

/-- Takes up the oldest deadline of the inbox. -/
def receive? (task : DeadlineTask) : Option DeadlineTask :=
  match task.inbox with
  | deadline :: rest =>
      if task.phase = .running ∧ task.accepting then
        some { task with inbox := rest, agenda := task.agenda.push deadline }
      else none
  | [] => none

/-- Learns that nothing more can be armed. -/
def close? (task : DeadlineTask) : Option DeadlineTask :=
  if task.phase = .running ∧ task.accepting ∧ task.inbox = [] ∧ task.schedulers = 0 then
    some { task with accepting := false }
  else none

/-- Hands out the deadlines of the agenda that are due, if there are any. -/
def fire? (task : DeadlineTask) (now : Instant) : Option (List Deadline × DeadlineTask) :=
  match task.agenda.popExpired now with
  | (deadline :: rest, agenda) =>
      if task.phase = .running then some (deadline :: rest, { task with agenda }) else none
  | ([], _) => none

/-- Ends the task when nothing more can come. -/
def finish? (task : DeadlineTask) : Option DeadlineTask :=
  if task.phase = .running ∧ ¬task.accepting ∧ task.agenda.isEmpty then
    some { task with phase := .finished }
  else none

/-! ## A task that runs until it has nothing to do -/

/-- Takes up the whole inbox. -/
def receiveAll (task : DeadlineTask) : DeadlineTask :=
  if task.phase = .running ∧ task.accepting then
    { task with inbox := [], agenda := task.inbox.foldl Agenda.push task.agenda }
  else task

/-- Runs the task at an instant until it has nothing to do: it takes up what was armed, hands out
what is due, and ends if nothing more can come. -/
def settle (task : DeadlineTask) (now : Instant) : List Deadline × DeadlineTask :=
  let received := task.receiveAll
  let (expired, fired) := (received.fire? now).getD ([], received)
  let closed := fired.close?.getD fired
  (expired, closed.finish?.getD closed)

end DeadlineTask

end Rendezvous
