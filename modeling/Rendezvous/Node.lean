import Rendezvous.CommandLine
import Rendezvous.Deployment

/-!
# The node

The node runs one source with the built-in service and answers every call with the payload that it
carried. The response takes the whole way: the listener keeps the event, and the echo stage takes it
up and dispatches it through the registry.
-/

namespace Rendezvous

/-- A node that is running. -/
structure Node where
  /-- The host with the source. -/
  deployment : Deployment

namespace Node

def sourceName : SourceName :=
  "node"

def registryName : RegistryName :=
  "node"

def version : String :=
  "0.1.0"

/-- The settings that a command line gives. -/
def settings (values : CommandLine.Values) : Settings where
  url := values.text .url
  sourceId := values.text .sourceId
  serviceTimeoutMs := values.number .serviceTimeout
  shutdownWaitingTime := values.number .shutdownWaitingTime

/-- How the source of a node is set up. -/
def blueprint (values : CommandLine.Values) : Blueprint where
  settings := settings values
  listener := some {}

/-- The lines of a cause in a report of several causes, from the second on under the first. -/
def indentCause (margin : String) (cause : String) : String :=
  ("\n" ++ margin).intercalate (cause.splitOn "\n")

/-- The report of a failure: what was tried, and the causes, numbered if there are several. -/
def report (attempt : String) (causes : List String) : String :=
  let listed := match causes with
    | [cause] => ["    " ++ indentCause "    " cause]
    | _ => causes.mapIdx fun number cause =>
        "    " ++ toString number ++ ": " ++ indentCause "       " cause
  "Error: " ++ attempt ++ "\n\nCaused by:\n" ++ "\n".intercalate listed ++ "\n"

/-- What comes of a command line. -/
inductive Launch
  /-- The description of the options is shown. -/
  | help
  /-- The command line is refused. -/
  | misused (misuse : CommandLine.Misuse)
  /-- The node does not come up. -/
  | failed (report : String)
  | running (node : Node)

/-- Builds and starts the source of a node on a host. -/
def start (host : Deployment) (values : CommandLine.Values) : Launch :=
  match host.build sourceName registryName (blueprint values) with
  | .error error => .failed (report "invalid source configuration" error.messages)
  | .ok built =>
      let (started, operation) := built.start sourceName
      match started.progress? sourceName operation with
      | some (.startEnded (.error error)) =>
          .failed (report "failed to start source" error.messages)
      | _ => .running ⟨started⟩

/-- Launches a node on a host. -/
def launch (host : Deployment) (arguments : List String) : Launch :=
  match CommandLine.read arguments with
  | .error misuse => .misused misuse
  | .ok .help => .help
  | .ok (.run values) => start host values

namespace Launch

/-- The exit code of a launch: zero unless the launch has failed. -/
def exitCode : Launch → UInt32
  | .help => 0
  | .misused _ => 2
  | .failed _ => 1
  | .running _ => 0

end Launch

/-- The address to which the source of a node is bound. -/
def address? (node : Node) : Option SocketAddress :=
  node.deployment.boundAddress? sourceName

/-- The path of the service of a node. -/
def path : String :=
  Target.builtIn.path

/-- The echo stage answers all events that are kept. -/
def echo (node : Node) : Node :=
  let exchange := node.deployment.exchange registryName
  let waiting := ((exchange.sources.find? sourceName).map fun source => source.events.length).getD 0
  let answered := (List.range waiting).foldl (fun exchange _ => exchange.echoOldest sourceName) exchange
  ⟨(node.deployment.setExchange registryName answered).settle⟩

/-- A request comes to a node. The response is returned, if the request reaches the node; a call
that it makes gets the given id. -/
def answer (node : Node) (request : Http.Request) (id : CorrelationId) :
    Node × Option Http.Response :=
  match node.deployment.visit sourceName request id with
  | (_, .refused) => (node, none)
  | (visited, .visited visit) =>
      let echoed := Node.echo ⟨visited⟩
      let awaited := echoed.deployment.awaitResponse sourceName visit
      (⟨awaited⟩, awaited.response? sourceName visit)

/-- A node is shut down with its own grace period. The exit code says whether that succeeded. -/
def shutDown (node : Node) : UInt32 :=
  let (begun, operation) :=
    node.deployment.beginShutdown sourceName (node.deployment.gracePeriod sourceName)
  match (begun.endOperation sourceName operation).progress? sourceName operation with
  | some (.shutdownEnded (.ok _)) => 0
  | _ => 1

end Node

end Rendezvous
