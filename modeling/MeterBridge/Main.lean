import MeterBridge.CommandLine

/-!
# The program

Reads what a call needs, and writes the response.
-/

namespace MeterBridge.CommandLine

/-- The text of a file, if it can be read. -/
def readText? (file : String) : IO (Option String) := do
  try
    return some (← IO.FS.readFile file)
  catch _ => return none

/-- The texts of some files. -/
def readTexts (files : List String) : IO Files := do
  let texts ← files.mapM fun file => do return (file, ← readText? file)
  return fun file => (texts.lookup file).join

/-- The response to the arguments. -/
def readAndRespond (arguments : List String) : IO Response := do
  match parse? arguments with
  | some (.call call) =>
    let files ← readTexts call.files
    let input ← if call.readsInput then (← IO.getStdin).readBinToEnd else pure .empty
    return call.respond files input.toList
  | _ => return respond arguments (fun _ => none) []

end MeterBridge.CommandLine

open MeterBridge.CommandLine in
/-- Answers a call of the program. -/
def main (arguments : List String) : IO UInt32 := do
  let response ← readAndRespond arguments
  IO.print response.output
  if let some complaint := response.complaint then IO.eprintln complaint
  return UInt32.ofNat response.status
