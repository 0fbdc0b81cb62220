import Rendezvous.Directory

/-!
# Registry

The registry tells which source answers under a source id. An id has at most one source at a time;
the first to register keeps it until the id is deregistered.
-/

namespace Rendezvous

/-- The name of a source among those that share a registry. -/
abbrev SourceName := String

/-- Another source is registered under the id. -/
structure AlreadyRegistered where
  sourceId : String
deriving DecidableEq, Repr

namespace AlreadyRegistered

def message (refusal : AlreadyRegistered) : String :=
  "a source is already registered under id '" ++ refusal.sourceId ++ "'"

end AlreadyRegistered

/-- The sources that can be reached, under their source ids. -/
abbrev Registry := Directory String SourceName

namespace Registry

/-- Registers a source under an id, unless the id is taken. -/
def register (registry : Registry) (sourceId : String) (source : SourceName) :
    Except AlreadyRegistered Registry :=
  if registry.contains sourceId then .error ⟨sourceId⟩
  else .ok (registry.put sourceId source)

/-- Removes whatever is registered under an id, and tells whether there was anything. -/
def deregister (registry : Registry) (sourceId : String) : Registry × Bool :=
  (registry.erase sourceId, registry.contains sourceId)

end Registry

end Rendezvous
