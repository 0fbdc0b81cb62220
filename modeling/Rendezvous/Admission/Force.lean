/-!
# Forced endings

While a call runs, a force signal can end it. Each time the call is polled the signal is looked at
first: if it is raised the call ends there and then, and otherwise the service gets its turn. What
happens to the signal between two polls does not count, and once the other side of the signal is
gone it keeps its last value.
-/

namespace Rendezvous

/-- The signal that ends the calls in flight. -/
structure ForceSignal where
  /-- Whether the calls in flight are to end. -/
  raised : Bool := false
  /-- Whether there is still somebody who could change the signal. -/
  held : Bool := true
deriving DecidableEq, Repr

/-- Something that happens while a call runs. -/
inductive Moment
  | raise
  | lower
  /-- Whoever could change the signal goes away. -/
  | release
  | poll
deriving DecidableEq, Repr

namespace ForceSignal

/-- The signal after something has happened. -/
def after (signal : ForceSignal) : Moment → ForceSignal
  | .raise => if signal.held then { signal with raised := true } else signal
  | .lower => if signal.held then { signal with raised := false } else signal
  | .release => { signal with held := false }
  | .poll => signal

end ForceSignal

/-- How a call that could be forced has ended. -/
inductive Verdict (Answer : Type)
  /-- The signal ended the call. -/
  | forced
  | answered (answer : Answer)
deriving DecidableEq, Repr

/-- A call that runs against a force signal. -/
structure ForceRace (Answer : Type) where
  signal : ForceSignal := {}
  /-- How often the service has been polled. -/
  polls : Nat := 0
  /-- How the call has ended, once it has. -/
  verdict : Option (Verdict Answer) := none
deriving DecidableEq, Repr

namespace ForceRace

variable {Answer : Type}

/-- The race after a poll, where the service is given by its answers to one poll after another. -/
def poll (service : Nat → Option Answer) (race : ForceRace Answer) : ForceRace Answer :=
  match race.verdict with
  | some _ => race
  | none =>
      if race.signal.raised then { race with verdict := some .forced }
      else
        { race with
          polls := race.polls + 1
          verdict := (service race.polls).map .answered }

/-- The race after something has happened. -/
def step (service : Nat → Option Answer) (race : ForceRace Answer) (moment : Moment) :
    ForceRace Answer :=
  match moment with
  | .poll => race.poll service
  | other => { race with signal := race.signal.after other }

/-- The race after a timeline. -/
def run (service : Nat → Option Answer) (race : ForceRace Answer) (timeline : List Moment) :
    ForceRace Answer :=
  timeline.foldl (step service) race

end ForceRace

end Rendezvous
