import Rendezvous.Admission.Force
import Rendezvous.Exchange
import Rendezvous.Ingress.Route

/-!
# The way into a source

Requests come in over HTTP. Each becomes a visit, which is answered at most once: by the force
signal, by the limits, by the route, or with the outcome of the call that it made. A visit that waits
for its call is looked at again when it is woken, and then the force signal comes first. A visit that
is ended by the signal, or that its client leaves, gives up its call without telling the table.
-/

namespace Rendezvous

/-- What a source serves. -/
inductive Service
  /-- The built-in event service, at its path. -/
  | builtIn (path : String)
  /-- A service of its own. -/
  | custom (router : Router)

/-- What has become of a request. -/
inductive Visit
  /-- The request has made a call and waits for its outcome. -/
  | waiting (ticket : Ticket)
  /-- The service has not answered and will not. -/
  | hanging
  | answered (response : Http.Response)
  | left
deriving DecidableEq, Repr

namespace Visit

/-- Whether a visit is not over yet. -/
def isOpen : Visit → Bool
  | .waiting _ => true
  | .hanging => true
  | .answered _ => false
  | .left => false

def response? : Visit → Option Http.Response
  | .answered response => some response
  | _ => none

end Visit

/-- The number of a visit among those to a source. -/
abbrev VisitNumber := Nat

/-- The way into a source. -/
structure Ingress where
  source : SourceName
  /-- What the source serves. -/
  service : Service
  /-- The greatest sizes that the source takes. -/
  limits : Limits
  /-- The signal that ends the visits in flight. -/
  signal : ForceSignal := {}
  /-- The visits in the order in which they came. -/
  visits : List Visit := []

namespace Ingress

/-- The ingress with one more visit. -/
def enter (ingress : Ingress) (visit : Visit) : Ingress :=
  { ingress with visits := ingress.visits ++ [visit] }

/-- The ingress after a visit has come further. -/
def setVisit (ingress : Ingress) (number : VisitNumber) (visit : Visit) : Ingress :=
  { ingress with visits := ingress.visits.set number visit }

def nextVisit (ingress : Ingress) : VisitNumber :=
  ingress.visits.length

/-- How many visits are not over yet. -/
def openVisits (ingress : Ingress) : Nat :=
  ingress.visits.countP Visit.isOpen

/-- What a visit becomes that looks at its call. -/
def lookAt (exchange : Exchange) (source : SourceName) (ticket : Ticket) : Exchange × Visit :=
  match exchange.sources.find? source with
  | none => (exchange, .answered (.ofStatus .internal))
  | some state =>
      match state.poll ticket with
      | (polled, .outcome outcome) =>
          (exchange.setSource source polled, .answered (.ofOutcome outcome))
      | (polled, .closed) =>
          (exchange.setSource source polled, .answered (.ofStatus .internal))
      | (_, .pending) => (exchange, .waiting ticket)
      | (_, .gone) => (exchange, .answered (.ofStatus .internal))

/-- What becomes of a request to the built-in service that is within the limits. -/
def serveEvent (exchange : Exchange) (source : SourceName) (path : String) (head : Http.Head)
    (inflow : Inflow) (id : CorrelationId) : Exchange × Visit :=
  match EventRoute.read path head inflow with
  | .error response => (exchange, .answered (Admission.outgoing response))
  | .ok event =>
      match exchange.handle? source event.payload head.headers id with
      | none => (exchange, .answered (.ofStatus .internal))
      | some (handled, receipt) => lookAt handled source receipt.ticket

/-- A request comes in. If it makes a call, the call gets the given id. -/
def arrive (exchange : Exchange) (ingress : Ingress) (request : Http.Request) (id : CorrelationId) :
    Exchange × Ingress :=
  if ingress.signal.raised then (exchange, ingress.enter (.answered (.ofStatus .unavailable)))
  else
    match ingress.service with
    | .custom router =>
        match Admission.respond ingress.limits router request with
        | none => (exchange, ingress.enter .hanging)
        | some response => (exchange, ingress.enter (.answered response))
    | .builtIn path =>
        match Admission.refusal? ingress.limits request.head.headers with
        | some status => (exchange, ingress.enter (.answered (.ofStatus status)))
        | none =>
            let inflow := Inflow.ofChunks (Admission.bodyLimit ingress.limits request.head.headers)
              request.chunks
            let (served, visit) :=
              serveEvent exchange ingress.source path request.head inflow id
            (served, ingress.enter visit)

/-- The caller of the call of a visit leaves. -/
def giveUp (exchange : Exchange) (ingress : Ingress) (ticket : Ticket) : Exchange :=
  exchange.changeSource ingress.source (·.hangUp ticket)

/-- A visit is woken: if the signal is raised it ends, and otherwise it looks at its call. -/
def wake (exchange : Exchange) (ingress : Ingress) (number : VisitNumber) : Exchange × Ingress :=
  match ingress.visits[number]? with
  | some (.waiting ticket) =>
      if ingress.signal.raised then
        (giveUp exchange ingress ticket,
          ingress.setVisit number (.answered (.ofStatus .unavailable)))
      else
        let (seen, visit) := lookAt exchange ingress.source ticket
        (seen, ingress.setVisit number visit)
  | some .hanging =>
      if ingress.signal.raised then
        (exchange, ingress.setVisit number (.answered (.ofStatus .unavailable)))
      else (exchange, ingress)
  | _ => (exchange, ingress)

/-- The client of a visit leaves. -/
def leave (exchange : Exchange) (ingress : Ingress) (number : VisitNumber) : Exchange × Ingress :=
  match ingress.visits[number]? with
  | some (.waiting ticket) => (giveUp exchange ingress ticket, ingress.setVisit number .left)
  | some .hanging => (exchange, ingress.setVisit number .left)
  | _ => (exchange, ingress)

/-- The signal that ends the visits in flight is raised. -/
def force (ingress : Ingress) : Ingress :=
  { ingress with signal := ingress.signal.after .raise }

/-- All visits are woken, one after another. -/
def wakeAll (exchange : Exchange) (ingress : Ingress) : Exchange × Ingress :=
  (List.range ingress.visits.length).foldl (fun (exchange, ingress) number =>
    wake exchange ingress number) (exchange, ingress)

end Ingress

end Rendezvous
