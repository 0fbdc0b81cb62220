import Rendezvous.Call
import Rendezvous.Metadata
import Rendezvous.Wire

/-!
# Requests and responses

The parts of HTTP that a source looks at. A request has a head and a body that comes in chunks; a
response has a status and a body. A failed call is answered with the HTTP status of its failure and
the JSON body of its status.
-/

namespace Rendezvous.Http

/-- The bytes of a body or of a part of it. -/
abbrev Bytes := List UInt8

def bytesOf (text : String) : Bytes :=
  text.toUTF8.toList

/-- What is known of a request before its body is read. -/
structure Head where
  method : String
  /-- The path, with a query after a question mark and a fragment after a number sign if given. -/
  target : String
  headers : Metadata

namespace Head

def endsPath (character : Char) : Bool :=
  character == '?' || character == '#'

/-- The path without query and fragment. -/
def path (head : Head) : String :=
  String.ofList (head.target.toList.takeWhile (!endsPath ·))

end Head

/-- A request. -/
structure Request where
  /-- What is known before the body is read. -/
  head : Head
  /-- The body as it comes in. -/
  chunks : List Bytes

namespace Request

/-- Cuts bytes into pieces of a size. The last piece may be smaller. -/
def pieces (size : Nat) (bytes : Bytes) : List Bytes :=
  (List.range ((bytes.length + size - 1) / size)).map fun index =>
    (bytes.drop (index * size)).take size

/-- A request with the header fields of its sender, to which the sender adds the length of the
body. -/
def declared (method target : String) (fields : List (String × HeaderValue)) (body : Bytes) :
    Request :=
  let length := String.ofList (Text.showNatural body.length)
  ⟨⟨method, target, Metadata.ofFields (fields ++ [("content-length", .ofString length)])⟩, [body]⟩

/-- A request with the header fields of its sender, whose body is sent in pieces of a size. -/
def streamed (method target : String) (fields : List (String × HeaderValue)) (size : Nat)
    (body : Bytes) : Request :=
  ⟨⟨method, target, Metadata.ofFields (fields ++ [("transfer-encoding", .ofString "chunked")])⟩,
    pieces size body⟩

end Request

/-- A response. -/
structure Response where
  status : Nat
  /-- The media type of the body, unless it is left to the host. -/
  contentType : Option String := none
  body : Bytes := []
deriving DecidableEq, Repr

namespace Response

/-- The media type of JSON documents. -/
def json : String :=
  "application/json"

/-- The response to a failed call. -/
def ofStatus (status : CallStatus) : Response :=
  ⟨status.httpStatus, some json, bytesOf status.body.toJson⟩

/-- The response to a completed call. -/
def ofPayload (payload : String) : Response :=
  ⟨200, some json, bytesOf (EventMessage.mk payload).toJson⟩

/-- The response to a call that has ended. -/
def ofOutcome : Outcome → Response
  | .completed payload => ofPayload payload
  | .failed status => ofStatus status

end Response

end Rendezvous.Http
