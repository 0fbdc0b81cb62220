/-!
# Lifecycle of a server

The phases of a server, from its creation to its end, and the two ways in which the current phase
changes: a move that takes place only from the phase it starts at, and a plain setting.
-/

namespace Rendezvous

/-- How far a server has come. -/
inductive Phase
  /-- The server has not been started. -/
  | created
  /-- Somebody has started the server. -/
  | started
  /-- Somebody has shut the server down, and the calls in flight may end. -/
  | shuttingDownGraceful
  /-- The calls in flight are being ended. -/
  | shuttingDownForced
  /-- The server has stopped, or has failed to start. -/
  | stopped
deriving DecidableEq, Repr

namespace Phase

/-- All phases in the order in which a server goes through them. -/
def all : List Phase :=
  [.created, .started, .shuttingDownGraceful, .shuttingDownForced, .stopped]

def name : Phase → String
  | .created => "Created"
  | .started => "Started"
  | .shuttingDownGraceful => "ShuttingDownGraceful"
  | .shuttingDownForced => "ShuttingDownForced"
  | .stopped => "Stopped"

def ofName? (name : String) : Option Phase :=
  all.find? fun phase => phase.name == name

/-- The place of a phase in the order in which a server goes through the phases. -/
def rank : Phase → Nat
  | .created => 0
  | .started => 1
  | .shuttingDownGraceful => 2
  | .shuttingDownForced => 3
  | .stopped => 4

/-- Moves from one phase to another if it is the current one, and tells whether it was. -/
def move (current source target : Phase) : Phase × Bool :=
  if current = source then (target, true) else (current, false)

end Phase

/-- How a shutdown ended. -/
inductive ShutdownOutcome
  /-- There was nothing to shut down. -/
  | notRunning
  /-- All calls in flight ended by themselves. -/
  | graceful
  /-- The calls in flight had to be ended. -/
  | forced
deriving DecidableEq, Repr

end Rendezvous
