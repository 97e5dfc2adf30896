import Backflow.Command.Run

/-! # The command line

Reads the files that the arguments name, runs the request, prints its output and its log, and
ends with its status.  The log filter is taken from the environment.
-/

namespace Backflow.Command

def Request.inputs : Request → List String
  | .perform inputs _ _ => inputs
  | _ => []

def LogEntry.render (entry : LogEntry) : String :=
  (match entry.severity with | .warn => "WARN " | .info => "INFO ") ++ entry.message

/-- The content of a file; none if it cannot be read. -/
def readContent? (name : String) : IO (Option ByteArray) := do
  try
    return some (← IO.FS.readBinFile name)
  catch _ =>
    return none

end Backflow.Command

open Backflow.Command in
def main (arguments : List String) : IO UInt32 := do
  let request := Request.ofArguments none arguments
  let contents ← request.inputs.mapM fun name => return (name, ← readContent? name)
  let filter := LogFilter.ofText ((← IO.getEnv "DF_LOG").getD "info")
  let outcome := request.run (fun name => (contents.lookup name).join) filter
  for entry in outcome.log do
    IO.eprintln entry.render
  IO.print outcome.output
  match outcome.ending with
  | .done => pure ()
  | .failed failure => IO.eprintln ("Error: " ++ failure.message)
  | .refused => IO.eprintln "error: unexpected arguments (see --help)"
  return outcome.ending.status.toUInt32
