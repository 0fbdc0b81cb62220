import Rendezvous.Status

/-!
# Calls

A call has two ends. The caller waits at one end; whoever holds the other end resolves the call
once, with a payload or with a status, or drops it. A caller that has hung up gets nothing, and a
caller that has got an outcome waits no longer.
-/

namespace Rendezvous

/-- How a call ended. -/
inductive Outcome
  /-- The call got a response. -/
  | completed (payload : String)
  | failed (status : CallStatus)
deriving DecidableEq, Repr

/-- What has become of the end of a call that resolves it. -/
inductive Reply
  /-- The call is not resolved yet. -/
  | awaited
  /-- The call is resolved, and the outcome has reached the caller's end. -/
  | resolved (outcome : Outcome)
  /-- The call can no longer be resolved, and no outcome has reached the caller's end. -/
  | lost
deriving DecidableEq, Repr

/-- A call, seen from both ends. -/
structure Call where
  /-- Whether the caller still waits. -/
  listening : Bool := true
  /-- What has become of the other end. -/
  reply : Reply := .awaited
deriving DecidableEq, Repr

/-- What a caller sees that looks at its end. -/
inductive Glimpse
  /-- There is no outcome yet. -/
  | pending
  /-- The outcome, which is seen once. -/
  | outcome (outcome : Outcome)
  /-- There will be no outcome. -/
  | closed
  /-- The caller no longer waits. -/
  | gone
deriving DecidableEq, Repr

namespace Call

/-- Resolves a call, and tells whether the caller still waited. Only the first attempt counts. -/
def resolve (call : Call) (outcome : Outcome) : Call × Bool :=
  match call.reply with
  | .awaited =>
      if call.listening then ({ call with reply := .resolved outcome }, true)
      else ({ call with reply := .lost }, false)
  | _ => (call, false)

/-- Drops the end that would resolve the call. -/
def drop (call : Call) : Call :=
  match call.reply with
  | .awaited => { call with reply := .lost }
  | _ => call

/-- The caller leaves. -/
def hangUp (call : Call) : Call :=
  { call with listening := false }

/-- The caller looks at its end, and leaves when there is nothing left to wait for. -/
def poll (call : Call) : Call × Glimpse :=
  if call.listening then
    match call.reply with
    | .awaited => (call, .pending)
    | .resolved outcome => (call.hangUp, .outcome outcome)
    | .lost => (call.hangUp, .closed)
  else (call, .gone)

end Call

end Rendezvous
