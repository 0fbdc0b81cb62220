import Rendezvous.Node

/-!
# The program

Launches the node on a host that serves the standard streams: each line that comes in is the body of
an event that is posted to the service, and the status and the body of the response go out. The end
of the input shuts the node down.
-/

namespace Rendezvous

def standardHost : Deployment :=
  { reachable := true }

def freshId : IO CorrelationId := do
  let bytes ← IO.getRandomBytes 16
  return .ofRandom (bytes.toList.foldl (fun bits byte => bits <<< 8 ||| BitVec.ofNat 128 byte.toNat) 0)

/-- The request that posts a body to the service of the node. -/
def postedEvent (body : String) : Http.Request :=
  .declared EventRoute.method Node.path [("content-type", .ofString Http.Response.json)]
    (Http.bytesOf body)

def bodyText (body : Http.Bytes) : String :=
  (String.fromUTF8? ⟨body.toArray⟩).getD ""

/-- Answers the lines of the input until it ends, and shuts the node down then. -/
partial def serve (node : Node) (input output : IO.FS.Stream) : IO UInt32 := do
  let line ← input.getLine
  if line.isEmpty then
    return node.shutDown
  let (answered, response?) := node.answer (postedEvent line.trimAscii.toString) (← freshId)
  match response? with
  | none => output.putStrLn "refused"
  | some response => output.putStrLn (toString response.status ++ " " ++ bodyText response.body)
  output.flush
  serve answered input output

end Rendezvous

open Rendezvous

/-- Runs the node with the given arguments. -/
def main (arguments : List String) : IO UInt32 := do
  let launch := Node.launch standardHost arguments
  match launch with
  | .help => IO.print CommandLine.helpText
  | .misused misuse => IO.eprintln ("error: " ++ misuse.message)
  | .failed report => IO.eprint report
  | .running node => return ← serve node (← IO.getStdin) (← IO.getStdout)
  return launch.exitCode
