import Rendezvous.Admission
import Rendezvous.Http.MediaType

/-!
# The route of the built-in service

The built-in service takes events that are posted to one path as JSON documents. What comes some
other way is answered at once: another path, another method, another media type, a body that is too
large, and a body that is no event.
-/

namespace Rendezvous.EventRoute

/-- The method by which events come. -/
def method : String :=
  "POST"

/-- The response of a status without a body of its own. -/
def bare (status : Nat) : Http.Response :=
  { status }

/-- Whether the first `content-type` field names JSON. -/
def declaresJson (headers : Metadata) : Bool :=
  match (headers.first? "content-type").bind HeaderValue.visible? with
  | none => false
  | some text => Http.MediaType.isJson text

/-- The status for a body that is no event: a document of another shape, or no document. -/
def faultStatus : Json.Fault → Nat
  | .mismatch => 422
  | .malformed | .unexpectedEnd => 400

/-- The event in a body. What follows the document does not count. -/
def readBody (body : Http.Bytes) : Except Http.Response EventMessage :=
  match String.fromUTF8? ⟨body.toArray⟩ with
  | none => .error (bare (faultStatus .malformed))
  | some text =>
      match EventMessage.readJson text.toList with
      | .error fault => .error (bare (faultStatus fault))
      | .ok (event, _) => .ok event

/-- The event that a request brings, or the response to a request that brings none. -/
def read (path : String) (head : Http.Head) (inflow : Inflow) :
    Except Http.Response EventMessage :=
  if head.path ≠ path then .error (bare 404)
  else if head.method ≠ method then .error (bare 405)
  else if !declaresJson head.headers then .error (bare 415)
  else
    match inflow.readAll? with
    | none => .error (bare Admission.tooLargeStatus)
    | some body => readBody body

end Rendezvous.EventRoute
