import DocDispatch.CommandLine.Run
import DocDispatch.Store.Id

/-!
# Main — the replay program

Reads the script that the command line names, if it names one, and prints what the replay comes to.
Ids of new documents count up from a number drawn at the start.
-/

open DocDispatch

/-- The text of a file, if it can be read as text. -/
def readText? (path : String) : IO (Option String) := do
  try
    return some (← IO.FS.readFile path)
  catch _ =>
    return none

/-- A number of 128 random bits. -/
def drawNumber : IO Nat := do
  let bytes ← IO.getRandomBytes 16
  return bytes.toList.foldl (fun n b => n * 256 + b.toNat) 0

def main (arguments : List String) : IO UInt32 := do
  let text ← match CommandLine.Options.ofArguments arguments with
    | .ok options => readText? options.script
    | .error _ => pure none
  let first ← drawNumber
  let result := CommandLine.run arguments (fun _ => text) fun n => DocumentId.ofBits (first + n)
  for line in result.lines do
    IO.println line
  if let some complaint := result.complaint then
    IO.eprintln complaint
  return result.exit.toUInt32
