import Rendezvous.Fleet
import Rendezvous.Source.Blueprint

/-!
# Deployments

A deployment is a set of sources with their servers on one host. A source is called over the network
of the host, which may or may not let clients reach what listens on it. Sources that name the same
registry form an exchange; all exchanges share one clock.

Nothing happens between two instants at which a deadline or the end of a grace period is due. So time
passes from one such instant to the next, and at each of them `settle` lets everything happen that
can happen: deadlines are fired, visits look at their calls, and servers end.
-/

namespace Rendezvous

/-- The name of a registry. -/
abbrev RegistryName := String

/-- A source with its server. -/
structure Station where
  /-- The registry that the source uses. -/
  registry : RegistryName
  /-- How the source is set up, and the address at which it is called. -/
  assembly : Assembly
  /-- The operations on the server. -/
  member : Member
  /-- The way into the source. -/
  ingress : Ingress
  /-- The address at which the server takes requests, while it does. -/
  listening : Option SocketAddress := none
  /-- When the shutdown that waits for the server stops waiting. -/
  patience : Instant := 0

/-- Sources with their servers on one host. -/
structure Deployment where
  /-- Whether clients reach what listens on the host. -/
  reachable : Bool
  /-- The present moment. -/
  now : Instant := 0
  /-- The sources that share a registry, for each registry. -/
  exchanges : Directory RegistryName Exchange := Directory.empty
  /-- The sources with their servers. -/
  stations : Directory SourceName Station := Directory.empty
  /-- The port that the host chooses next. -/
  freePort : UInt16 := 49152

/-- What has become of a request. -/
inductive Arrival
  /-- There is nothing that listens, or it cannot be reached. -/
  | refused
  /-- The request has become a visit. -/
  | visited (visit : VisitNumber)
deriving DecidableEq, Repr

namespace Deployment

/-! ## Parts -/

def exchange (deployment : Deployment) (registry : RegistryName) : Exchange :=
  (deployment.exchanges.find? registry).getD { now := deployment.now }

/-- The deployment after the exchange of a registry has changed. -/
def setExchange (deployment : Deployment) (registry : RegistryName) (exchange : Exchange) :
    Deployment :=
  { deployment with exchanges := deployment.exchanges.put registry exchange }

/-- The deployment after a station has changed. -/
def setStation (deployment : Deployment) (name : SourceName) (station : Station) : Deployment :=
  { deployment with stations := deployment.stations.put name station }

/-- The source of a station, as it is now. -/
def source? (deployment : Deployment) (name : SourceName) : Option Source :=
  match deployment.stations.find? name with
  | none => none
  | some station => (deployment.exchange station.registry).sources.find? name

/-- The address to which the server of a source is bound, once it has started. -/
def boundAddress? (deployment : Deployment) (name : SourceName) : Option SocketAddress :=
  (deployment.stations.find? name).bind fun station => station.member.control.address

def gracePeriod (deployment : Deployment) (name : SourceName) : Duration :=
  match deployment.stations.find? name with
  | none => ⟨0⟩
  | some station => station.assembly.settings.gracePeriod

/-- How many calls of a source wait for their responses. -/
def pendingCalls (deployment : Deployment) (name : SourceName) : Nat :=
  match deployment.source? name with
  | none => 0
  | some source => source.pending.size

/-! ## Building -/

/-- Builds a source under a name. -/
def build (deployment : Deployment) (name : SourceName) (registry : RegistryName)
    (blueprint : Blueprint) : Except SourceError Deployment :=
  match blueprint.build with
  | .error cause => .error (.settings cause)
  | .ok assembly =>
      let station : Station := {
        registry, assembly
        member := { sourceId := assembly.source.id }
        ingress := {
          source := name
          service := assembly.service
          limits := assembly.settings.limits } }
      .ok ((deployment.setStation name station).setExchange registry
        ((deployment.exchange registry).setSource name assembly.source))

/-! ## The network of the host -/

/-- Whether an address belongs to the host. -/
def isLocal (address : IpAddress) : Bool :=
  address.isLoopback || address.isUnspecified

/-- Whether listening on one address takes the connections to another with the same port. The
unspecified address of version 4 covers its own version, and that of version 6 both. -/
def covers (left right : IpAddress) : Bool :=
  left == right || (left.isUnspecified && (right.isVersion4 || !left.isVersion4))

/-- Whether two addresses cannot be listened on at the same time. -/
def conflict (left right : SocketAddress) : Bool :=
  left.port == right.port && (covers left.host right.host || covers right.host left.host)

/-- Why an address that belongs to another host cannot be bound. -/
def notLocalReason : String :=
  "Cannot assign requested address (os error 99)"

/-- Why an address that is in use cannot be bound. -/
def inUseReason : String :=
  "Address already in use (os error 98)"

/-- Binds an address; the host chooses the port if none is given. -/
def bind (deployment : Deployment) (address : SocketAddress) : StartResult :=
  if !isLocal address.host then .error (.bind address notLocalReason)
  else if address.port = 0 then .ok { address with port := deployment.freePort }
  else if deployment.stations.entries.any fun (_, station) =>
      station.listening.any (conflict address) then .error (.bind address inUseReason)
  else .ok address

/-! ## Operations on servers -/

/-- A step of an operation on the server of a source, with its effect on the registry. -/
def memberStep (deployment : Deployment) (name : SourceName) (step : MemberStep) : Deployment :=
  match deployment.stations.find? name with
  | none => deployment
  | some station =>
      let exchange := deployment.exchange station.registry
      match Member.step? exchange.registry name station.member step with
      | none => deployment
      | some (registry, member) =>
          (deployment.setStation name { station with member }).setExchange station.registry
            { exchange with registry }

/-- The deployment after a station and its source have changed. -/
def changeStation (deployment : Deployment) (name : SourceName) (change : Station → Station) :
    Deployment :=
  match deployment.stations.find? name with
  | none => deployment
  | some station => deployment.setStation name (change station)

/-- Starts the deadline task of a source. -/
def spawnTask (deployment : Deployment) (name : SourceName) : Deployment :=
  match deployment.stations.find? name with
  | none => deployment
  | some station =>
      deployment.setExchange station.registry
        ((deployment.exchange station.registry).changeSource name fun source =>
          source.withTask (source.task.spawn?.getD source.task))

/-- Begins an operation, and lets it get hold of the server if it queues for it. -/
def beginOperation (deployment : Deployment) (name : SourceName) (step : MemberStep) :
    Deployment × OperationNumber :=
  match deployment.stations.find? name with
  | none => (deployment, 0)
  | some station =>
      let operation := station.member.control.nextOperation
      ((deployment.memberStep name step).memberStep name (.acquire operation), operation)

/-- How far an operation has come. -/
def progress? (deployment : Deployment) (name : SourceName) (operation : OperationNumber) :
    Option Progress :=
  (deployment.stations.find? name).bind fun station => station.member.control.operations[operation]?

/-- Starts a source. The server comes up at once or not at all. -/
def start (deployment : Deployment) (name : SourceName) : Deployment × OperationNumber :=
  let (begun, operation) := deployment.beginOperation name .beginStart
  match begun.stations.find? name, begun.progress? name operation with
  | some station, some .starting =>
      let spawned := begun.spawnTask name
      let result := spawned.bind station.assembly.endpoint.socketAddress
      let answered := spawned.memberStep name (.serverStarted result)
      match result with
      | .error _ => (answered, operation)
      | .ok address =>
          ({ answered.changeStation name ({ · with listening := some address }) with
            freePort := answered.freePort + 1 }, operation)
  | _, _ => (begun, operation)

/-! ## Time -/

/-- Whether a shutdown waits for the server of a station. -/
def awaitsEnd (station : Station) : Bool :=
  match station.member.control.holder.bind (station.member.control.operations[·]?) with
  | some (.draining _) => true
  | some (.forcing _) => true
  | _ => false

/-- How long the shutdown that waits for the server of a station waits each time. -/
def grace? (station : Station) : Option Duration :=
  match station.member.control.holder.bind (station.member.control.operations[·]?) with
  | some (.draining grace) => some grace
  | some (.forcing grace) => some grace
  | _ => none

/-- All visits to a source look at their calls. -/
def wakeVisits (deployment : Deployment) (name : SourceName) : Deployment :=
  match deployment.stations.find? name with
  | none => deployment
  | some station =>
      let (exchange, ingress) :=
        Ingress.wakeAll (deployment.exchange station.registry) station.ingress
      (deployment.setExchange station.registry exchange).setStation name { station with ingress }

/-- A shutdown that waits learns that the server has ended, if all visits are over. -/
def endServer (deployment : Deployment) (name : SourceName) : Deployment :=
  match deployment.stations.find? name with
  | none => deployment
  | some station =>
      if awaitsEnd station && station.ingress.openVisits == 0 then
        deployment.memberStep name (.serverAwaited true)
      else deployment

/-- A shutdown that has waited long enough ends the visits in flight, or gives up. -/
def losePatience (deployment : Deployment) (name : SourceName) : Deployment :=
  match deployment.stations.find? name with
  | none => deployment
  | some station =>
      match grace? station with
      | none => deployment
      | some grace =>
          if station.patience ≤ deployment.now then
            (((deployment.memberStep name (.serverAwaited false)).changeStation name fun station =>
              { station with
                ingress := station.ingress.force
                patience := deployment.now + grace.nanoseconds }).wakeVisits name).endServer name
          else deployment

/-- Lets everything happen that can happen at the present instant. -/
def settle (deployment : Deployment) : Deployment :=
  let fired := deployment.exchanges.keys.foldl (fun deployment registry =>
    deployment.setExchange registry (deployment.exchange registry).settle) deployment
  let names := fired.stations.keys
  let woken := names.foldl wakeVisits fired
  let ended := names.foldl endServer woken
  names.foldl losePatience ended

def dueInstants (exchange : Exchange) : List Instant :=
  exchange.sources.entries.flatMap fun (_, source) =>
    if source.task.phase = .running then source.task.agenda.deadlines.map Deadline.due else []

/-- The instants at which something is due. -/
def instants (deployment : Deployment) : List Instant :=
  (deployment.exchanges.entries.flatMap fun (_, exchange) => dueInstants exchange) ++
    deployment.stations.entries.filterMap fun (_, station) =>
      if awaitsEnd station then some station.patience else none

/-- The deployment at a later instant. -/
def moveTo (deployment : Deployment) (instant : Instant) : Deployment :=
  { deployment with
    now := instant
    exchanges := deployment.exchanges.keys.foldl (fun exchanges registry =>
      exchanges.put registry { deployment.exchange registry with now := instant })
        deployment.exchanges }

/-- Time passes until the next instant at which something is due, if there is one. -/
def passTime? (deployment : Deployment) : Option Deployment :=
  deployment.instants.min?.map fun instant =>
    (deployment.moveTo (max deployment.now instant)).settle

/-- Time passes until something is so, at most for the given number of instants. -/
def passUntil (holds : Deployment → Bool) (deployment : Deployment) : Nat → Deployment
  | 0 => deployment
  | count + 1 =>
      if holds deployment then deployment
      else
        match deployment.passTime? with
        | none => deployment
        | some later => passUntil holds later count

/-- Time passes until something is so, or until nothing is left that could happen: each deadline is
due once, and each shutdown waits twice. -/
def await (deployment : Deployment) (holds : Deployment → Bool) : Deployment :=
  deployment.passUntil holds
    ((deployment.exchanges.entries.flatMap fun (_, exchange) => dueInstants exchange).length +
      2 * deployment.stations.size + 1)

/-! ## Shutting down -/

/-- Begins to shut a source down. From the moment the server is told it takes no requests. -/
def beginShutdown (deployment : Deployment) (name : SourceName) (grace : Duration) :
    Deployment × OperationNumber :=
  let (begun, operation) := deployment.beginOperation name (.beginShutdown grace)
  match begun.progress? name operation with
  | some (.draining _) =>
      ((begun.changeStation name fun station =>
        { station with
          listening := none
          patience := begun.now + grace.nanoseconds }).settle, operation)
  | _ => (begun, operation)

/-- Time passes until an operation has ended. -/
def endOperation (deployment : Deployment) (name : SourceName) (operation : OperationNumber) :
    Deployment :=
  deployment.await fun deployment => (deployment.progress? name operation).all Progress.hasEnded

/-! ## Requests and responses -/

/-- A request comes to a source. If it makes a call, the call gets the given id. -/
def visit (deployment : Deployment) (name : SourceName) (request : Http.Request)
    (id : CorrelationId) : Deployment × Arrival :=
  match deployment.stations.find? name with
  | none => (deployment, .refused)
  | some station =>
      if deployment.reachable && station.listening.isSome then
        let (exchange, ingress) :=
          Ingress.arrive (deployment.exchange station.registry) station.ingress request id
        (((deployment.setExchange station.registry exchange).setStation name
          { station with ingress }).settle, .visited station.ingress.nextVisit)
      else (deployment, .refused)

/-- The response to a visit, once there is one. -/
def response? (deployment : Deployment) (name : SourceName) (visit : VisitNumber) :
    Option Http.Response :=
  (deployment.stations.find? name).bind fun station =>
    (station.ingress.visits[visit]?).bind Visit.response?

/-- Time passes until a visit has been answered. -/
def awaitResponse (deployment : Deployment) (name : SourceName) (visit : VisitNumber) :
    Deployment :=
  deployment.await fun deployment => (deployment.response? name visit).isSome

/-- Somebody tries to complete a call of a source that uses a registry. -/
def dispatch (deployment : Deployment) (registry : RegistryName) (attempt : Dispatch) :
    Deployment × Bool :=
  let (exchange, completed) := (deployment.exchange registry).dispatch attempt
  ((deployment.setExchange registry exchange).settle, completed)

end Deployment

end Rendezvous
