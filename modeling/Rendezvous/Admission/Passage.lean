import Rendezvous.Admission
import Rendezvous.Admission.Force

/-!
# The way of a request

A request passes the force signal and the limits before it comes to whoever works on it. A worker
works from poll to poll, keeps a state meanwhile, and gives the response at the poll at which it is
done; what it does elsewhere is part of its state as well. While it is not polled nothing of this
changes.
-/

namespace Rendezvous

/-- Something that works on requests from poll to poll. -/
abbrev Worker (State : Type) := Http.Head → Inflow → StateM State (Option Http.Response)

namespace Worker

/-- A worker that reads the whole body before it begins, and refuses one that is too large. -/
def reading {State : Type} (handler : Http.Head → Http.Bytes → StateM State (Option Http.Response)) :
    Worker State :=
  fun head inflow =>
    match inflow.readAll? with
    | none => pure (some { status := Admission.tooLargeStatus })
    | some body => handler head body

end Worker

namespace ForceRace

variable {Answer State : Type}

/-- The race after something has happened, where the service has a state that its polls change. -/
def meet (service : StateM State (Option Answer)) (race : ForceRace Answer) :
    Moment → StateM State (ForceRace Answer)
  | .poll =>
      match race.verdict with
      | some _ => pure race
      | none =>
          if race.signal.raised then pure { race with verdict := some .forced }
          else do
            let answer ← service
            pure { race with polls := race.polls + 1, verdict := answer.map .answered }
  | other => pure { race with signal := race.signal.after other }

/-- The race after a timeline. -/
def meetAll (service : StateM State (Option Answer)) (race : ForceRace Answer)
    (timeline : List Moment) : StateM State (ForceRace Answer) :=
  timeline.foldlM (meet service) race

end ForceRace

/-- What the client of a call gets. -/
def Verdict.response : Verdict Http.Response → Http.Response
  | .forced => .ofStatus .unavailable
  | .answered response => response

/-- What the client gets, once the race is over. -/
def ForceRace.response? (race : ForceRace Http.Response) : Option Http.Response :=
  race.verdict.map Verdict.response

namespace Admission

variable {State : Type}

/-- What a worker can read of the body of a request. -/
def inflow (limits : Limits) (request : Http.Request) : Inflow :=
  Inflow.ofChunks (bodyLimit limits request.head.headers) request.chunks

/-- What the limits and a worker make of a request at a poll. -/
def work (limits : Limits) (worker : Worker State) (request : Http.Request) :
    StateM State (Option Http.Response) :=
  match refusal? limits request.head.headers with
  | some status => pure (some (.ofStatus status))
  | none => do
      let response ← worker request.head (inflow limits request)
      pure (response.map outgoing)

/-- The race of a request against a force signal. -/
def pass (limits : Limits) (worker : Worker State) (request : Http.Request) (signal : ForceSignal)
    (timeline : List Moment) : StateM State (ForceRace Http.Response) :=
  ForceRace.meetAll (work limits worker request) { signal } timeline

end Admission

end Rendezvous
