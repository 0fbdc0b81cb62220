import Rendezvous.CorrelationId
import Rendezvous.Directory

/-!
# Pending calls

The table of the calls that have been accepted and not yet resolved. An id is entered once at a
time, and whoever takes an entry out owns the call that it names: `take?` is the only way out, so a
response and a deadline that race for a call cannot both get it. A tally counts what has become of
the calls.
-/

namespace Rendezvous

/-- The number of a call among the calls of its source. -/
abbrev Ticket := Nat

/-- An id that was to be entered is pending already. -/
structure DuplicateId where
  id : CorrelationId
deriving DecidableEq, Repr

namespace DuplicateId

def message (duplicate : DuplicateId) : String :=
  "correlation id " ++ duplicate.id.text ++ " is already pending"

end DuplicateId

/-- What has become of the calls of a source. -/
structure Tally where
  /-- Calls that were entered. -/
  registered : Nat := 0
  /-- Calls that were completed with a response. -/
  completed : Nat := 0
  /-- Calls that were failed by their deadline. -/
  timeouts : Nat := 0
  /-- Calls that were completed or failed after their caller had left. -/
  abandoned : Nat := 0
deriving DecidableEq, Repr

namespace Tally

/-- One more call was entered. -/
def countRegistered (tally : Tally) : Tally :=
  { tally with registered := tally.registered + 1 }

/-- One more call ended, and its caller did or did not wait. -/
def countAbandoned (tally : Tally) (listening : Bool) : Tally :=
  if listening then tally else { tally with abandoned := tally.abandoned + 1 }

/-- One more call was completed, and its caller did or did not wait. -/
def countCompleted (tally : Tally) (listening : Bool) : Tally :=
  { tally with completed := tally.completed + 1 }.countAbandoned listening

/-- One more call was failed by its deadline, and its caller did or did not wait. -/
def countTimeout (tally : Tally) (listening : Bool) : Tally :=
  { tally with timeouts := tally.timeouts + 1 }.countAbandoned listening

end Tally

/-- The calls that wait for their responses. -/
structure Pending where
  /-- The calls under their ids. -/
  entries : Directory CorrelationId Ticket := Directory.empty
  /-- What has become of the calls. -/
  tally : Tally := {}

namespace Pending

/-- The number of pending calls. -/
def size (pending : Pending) : Nat :=
  pending.entries.size

/-- Whether a call is pending under an id. -/
def contains (pending : Pending) (id : CorrelationId) : Bool :=
  pending.entries.contains id

/-- Enters a call under an id, unless the id is taken. -/
def insert (pending : Pending) (id : CorrelationId) (ticket : Ticket) :
    Except DuplicateId Pending :=
  if pending.contains id then .error ⟨id⟩
  else .ok ⟨pending.entries.put id ticket, pending.tally.countRegistered⟩

/-- Takes the call out that is pending under an id. -/
def take? (pending : Pending) (id : CorrelationId) : Option (Ticket × Pending) :=
  match pending.entries.find? id with
  | none => none
  | some ticket => some (ticket, { pending with entries := pending.entries.erase id })

end Pending

end Rendezvous
