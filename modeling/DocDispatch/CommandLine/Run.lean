import DocDispatch.CommandLine.Options
import DocDispatch.Json.Printer
import DocDispatch.Replay.Log

/-!
# CommandLine/Run — what a command line prints and how it exits

A replay prints every action it emitted as one line of JSON and exits with 0.  A script that cannot
be read or is none exits with 1, and a wrong command line with 2, both without printing anything but
a complaint.
-/

namespace DocDispatch.CommandLine

/-- What a command line comes to. -/
structure Result where
  exit : UInt8
  /-- The lines of the standard output. -/
  lines : List String
  /-- What is wrong, if anything is. -/
  complaint : Option String

/-- The lines shown on request. -/
def help : List String := [
  "Replay store-call actions against an in-memory document store",
  "",
  "Usage: [OPTIONS] <SCRIPT>",
  "",
  "Arguments:",
  "  <SCRIPT>  Path to the replay script",
  "",
  "Options:",
  "  -m, --marker <MARKER>  Action property carrying store-call descriptors [default: CALL_STORE]",
  "  -v, --verbose          Enable verbose debug logging",
  "  -h, --help             Print help"]

/-- What the text of a script comes to; `none` if there is no such file. -/
def replayText (options : Options) (freshId : Nat → String) : Option String → Result
  | none => ⟨1, [], some ("Failed to read script " ++ options.script)⟩
  | some text =>
    match Script.ofText? text with
    | none => ⟨1, [], some "Failed to parse script"⟩
    | some script =>
      let log := script.replay options.marker freshId
      ⟨0, log.emitted.map fun a => a.toJson.text, none⟩

/-- **What a command line comes to**, given the text of the file it names. -/
def run (arguments : List String) (fileText : String → Option String) (freshId : Nat → String) :
    Result :=
  match Options.ofArguments arguments with
  | .ok options => replayText options freshId (fileText options.script)
  | .error .help => ⟨0, help, none⟩
  | .error (.error e) => ⟨2, [], some e.message⟩

end DocDispatch.CommandLine
