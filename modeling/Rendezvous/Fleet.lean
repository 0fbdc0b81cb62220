import Rendezvous.Lifecycle.Control

/-!
# Fleets

A fleet is a set of sources that share a registry, with the starts and shutdowns that are under way.
A source is registered by the start that has claimed its turn, before the server comes up. It is
removed again when the server fails to come up, and when a shutdown that has claimed its turn is
over, whatever its outcome.
-/

namespace Rendezvous

/-- A source with the operations on its server. -/
structure Member where
  sourceId : String
  /-- The server and the operations on it. -/
  control : Control := {}

/-- A step of an operation on the server of a source. -/
inductive MemberStep
  | beginStart
  | beginShutdown (grace : Duration)
  /-- A queued operation gets hold of the server. -/
  | acquire (operation : OperationNumber)
  /-- The server has come up, or has failed to. -/
  | serverStarted (result : StartResult)
  /-- The server has ended in the time given, or has not. -/
  | serverAwaited (terminated : Bool)

namespace Member

/-- The registry after a start has claimed its turn, and how the preparation of the start ended. A
start that has lost the claim leaves the registry alone. -/
def prepare (registry : Registry) (name : SourceName) (member : Member) :
    Registry × Except SourceError Unit :=
  if member.control.phase = .created then
    match registry.register member.sourceId name with
    | .ok registered => (registered, .ok ())
    | .error refusal => (registry, .error (.registry refusal))
  else (registry, .ok ())

/-- The registry without the id of a source. -/
def withdraw (registry : Registry) (member : Member) : Registry :=
  (registry.deregister member.sourceId).1

/-- What a step does to the registry and to the source, if it is possible. -/
def step? (registry : Registry) (name : SourceName) (member : Member) :
    MemberStep → Option (Registry × Member)
  | .beginStart =>
      let (registered, prepared) := prepare registry name member
      some (registered, { member with control := member.control.beginStart prepared })
  | .beginShutdown grace =>
      some (registry, { member with control := member.control.beginShutdown grace })
  | .acquire operation =>
      (member.control.acquire? operation).map fun control => (registry, { member with control })
  | .serverStarted result =>
      (member.control.serverStarted? result).map fun control =>
        match result with
        | .ok _ => (registry, { member with control })
        | .error _ => (withdraw registry member, { member with control })
  | .serverAwaited terminated =>
      (member.control.serverAwaited? terminated).map fun control =>
        if control.holder.isNone then (withdraw registry member, { member with control })
        else (registry, { member with control })

end Member

/-- Sources that share a registry. -/
structure Fleet where
  /-- The sources that can be reached by their source ids. -/
  registry : Registry := Directory.empty
  /-- The sources by their names. -/
  members : Directory SourceName Member := Directory.empty

namespace Fleet

/-- What a step of a source does, if it is possible. -/
def step? (fleet : Fleet) (name : SourceName) (step : MemberStep) : Option Fleet :=
  match fleet.members.find? name with
  | none => none
  | some member =>
      (Member.step? fleet.registry name member step).map fun (registry, changed) =>
        { registry, members := fleet.members.put name changed }

/-- The fleet that a sequence of steps leads to. -/
def run? (fleet : Fleet) : List (SourceName × MemberStep) → Option Fleet
  | [] => some fleet
  | (name, step) :: rest =>
      match fleet.step? name step with
      | none => none
      | some next => next.run? rest

end Fleet

end Rendezvous
