import Rendezvous.Http

/-!
# Admission of requests

Before a request reaches a service its size is checked. Metadata over the limit is refused first and
a declared length over the limit second; what is left of the body limit is kept while the body is
read. Wherever a message proves too large, the client gets the same response.
-/

namespace Rendezvous

/-- The greatest sizes that a source takes. -/
structure Limits where
  maxMessageSize : Nat
  /-- The greatest size of the metadata of a call in bytes. -/
  maxMetadataSize : Nat
deriving DecidableEq, Repr

/-- What a service can read of a body. -/
structure Inflow where
  /-- The chunks that can be read. -/
  chunks : List Http.Bytes
  /-- Whether reading on after them is refused, because more came than is allowed. -/
  tooLarge : Bool
deriving DecidableEq, Repr

namespace Inflow

/-- What can be read of chunks when their sizes may not exceed a limit together. -/
def ofChunks (limit : Nat) : List Http.Bytes → Inflow
  | [] => ⟨[], false⟩
  | chunk :: rest =>
      if chunk.length ≤ limit then
        let later := ofChunks (limit - chunk.length) rest
        ⟨chunk :: later.chunks, later.tooLarge⟩
      else ⟨[], true⟩

/-- The whole body, unless it is too large. -/
def readAll? (inflow : Inflow) : Option Http.Bytes :=
  if inflow.tooLarge then none else some inflow.chunks.flatten

end Inflow

/-- Something that answers requests. It may never answer. -/
abbrev Router := Http.Head → Inflow → Option Http.Response

namespace Admission

/-- The length that the first `content-length` field declares, if it holds a number. -/
def declaredLength? (headers : Metadata) : Option Nat :=
  match headers.first? "content-length" with
  | none => none
  | some value => value.visible?.bind (Text.readNatural (UInt64.size - 1))

/-- Why a request is refused before it reaches a service. -/
def refusal? (limits : Limits) (headers : Metadata) : Option CallStatus :=
  if limits.maxMetadataSize < headers.size then some .resourceExhausted
  else
    match declaredLength? headers with
    | none => none
    | some length => if limits.maxMessageSize < length then some .messageTooLarge else none

/-- How many bytes of the body a service can read. -/
def bodyLimit (limits : Limits) (headers : Metadata) : Nat :=
  match declaredLength? headers with
  | none => limits.maxMessageSize
  | some length => min limits.maxMessageSize length

/-- The status with which HTTP says that a body is too large. -/
def tooLargeStatus : Nat :=
  413

/-- The response that leaves the source in place of one that a service gave. -/
def outgoing (response : Http.Response) : Http.Response :=
  if response.status = tooLargeStatus then .ofStatus .messageTooLarge else response

/-- What a service makes of a request within the limits. -/
def respond (limits : Limits) (router : Router) (request : Http.Request) : Option Http.Response :=
  match refusal? limits request.head.headers with
  | some status => some (.ofStatus status)
  | none =>
      let inflow := Inflow.ofChunks (bodyLimit limits request.head.headers) request.chunks
      (router request.head inflow).map outgoing

end Admission

end Rendezvous
