import Rendezvous.Address.Reader
import Rendezvous.Settings.Error
import Rendezvous.Text.Blank
import Rendezvous.Text.Split

/-!
# Endpoints

An endpoint is the place at which a source is called: an address to bind and, if it is not the
built-in one, the service and method that are served there. It is written as
`grpc://<host>:<port>[/<service>/<method>]`. The port stands after the last colon of the authority;
IP literals and `localhost` bind as given, and any other host name binds every interface.
-/

namespace Rendezvous

/-- A service and one method of it. -/
structure Target where
  service : String
  method : String
deriving DecidableEq, Repr

namespace Target

/-- The built-in event service. -/
def builtIn : Target :=
  ⟨"EventService", "process"⟩

/-- The path of the method in a request. -/
def path (target : Target) : String :=
  "/" ++ target.service ++ "/" ++ target.method

end Target

/-- The place at which a source is called. -/
structure Endpoint where
  /-- The interface to bind. -/
  host : IpAddress
  /-- The port to bind, where zero leaves the choice to the host. -/
  port : UInt16
  /-- The service and method that the address names, if it names any. -/
  named : Option Target
deriving DecidableEq, Repr

namespace Endpoint

/-- The scheme of an endpoint address, in any letter case. -/
def scheme : String :=
  "grpc"

/-- The service and method that are served. -/
def target (endpoint : Endpoint) : Target :=
  endpoint.named.getD Target.builtIn

/-- Whether the built-in event service is served. -/
def isBuiltIn (endpoint : Endpoint) : Bool :=
  endpoint.target == Target.builtIn

def socketAddress (endpoint : Endpoint) : SocketAddress :=
  ⟨endpoint.host, endpoint.port⟩

/-- The path at which the method is called. -/
def routePath (endpoint : Endpoint) : String :=
  endpoint.target.path

/-- A host without the opening brackets before it and the closing brackets after it. -/
def dropBrackets (host : List Char) : List Char :=
  ((host.dropWhile (· == '[')).reverse.dropWhile (· == ']')).reverse

/-- The interface that a host name binds, unless the name is empty. -/
def bindHost? (host : List Char) : Option IpAddress :=
  let name := dropBrackets host
  if name.isEmpty then none
  else if Text.sameLetters name "localhost".toList then some IpAddress.localhost
  else some ((IpAddress.parse? name).getD IpAddress.unspecified)

/-- The service and method of a path: none, or exactly two segments that are not empty. -/
def targetOfPath? (path : List Char) : Option (Option Target) :=
  match (path.splitOn '/').filter (!·.isEmpty) with
  | [] => some none
  | [service, method] => some (some ⟨String.ofList service, String.ofList method⟩)
  | _ => none

/-- The endpoint that an address without surrounding blanks denotes. -/
def parseTrimmed (url : List Char) : Except SettingsError Endpoint := do
  let some (schemePart, rest) := Text.splitFirst "://".toList url
    | .error (.invalidUrl (String.ofList url))
  unless Text.sameLetters schemePart scheme.toList do
    .error (.unsupportedScheme (String.ofList schemePart))
  let (authority, path) := (Text.splitFirst ['/'] rest).getD (rest, [])
  let some (hostPart, portPart) := Text.splitLast ':' authority
    | .error (.invalidPort (String.ofList url))
  let some port := Text.readNatural 65535 portPart
    | .error (.invalidPort (String.ofList url))
  let some host := bindHost? hostPart
    | .error (.invalidUrl (String.ofList url))
  let some named := targetOfPath? path
    | .error (.invalidUrl (String.ofList url))
  .ok ⟨host, UInt16.ofNat port, named⟩

/-- The endpoint that an address denotes; blanks around the address do not count. -/
def parse (url : String) : Except SettingsError Endpoint :=
  parseTrimmed (Text.trim url.toList)

end Endpoint

end Rendezvous
