import DocDispatch.Dispatch.Dispatcher

/-!
# CommandLine/Options — what the arguments of a command line ask for

One operand, the path of a script, and the options

    -m, --marker MARKER    -v, --verbose    -h, --help

in any order.  A value follows its option as the next argument or in the same one, after `=` or, for
the short form, at once; short options can be run together.  Nothing but a lone `-` begins with a
hyphen and is no option, until `--` says that only operands follow.  Arguments are read from left to
right by `step`, one at a time, and the first one that is wrong decides.
-/

namespace DocDispatch.CommandLine

/-- What a replay is told on the command line. -/
structure Options where
  /-- The path of the script. -/
  script : String
  marker : String
  verbose : Bool
deriving DecidableEq

/-- What is wrong with a command line. -/
inductive UsageError where
  | unknownOption (name : String)
  | unexpectedOperand (operand : String)
  | unexpectedValue (option : String)
  | missingValue (option : String)
  | repeated (option : String)
  | emptyScript
  | missingScript
deriving DecidableEq

def UsageError.message : UsageError → String
  | .unknownOption name => s!"unknown option '{name}'"
  | .unexpectedOperand operand => s!"unexpected operand '{operand}'"
  | .unexpectedValue option => s!"option '{option}' takes no value"
  | .missingValue option => s!"option '{option}' needs a value"
  | .repeated option => s!"option '{option}' is given twice"
  | .emptyScript => "the path of the script is empty"
  | .missingScript => "the path of a script is needed"

/-- Why reading stops before the end of the arguments. -/
inductive Stop where
  | help
  | error (e : UsageError)

/-- The arguments read so far. -/
structure Seen where
  script : Option String
  marker : Option String
  verbose : Bool
  /-- Whether the next argument is the marker. -/
  awaitsMarker : Bool
  /-- Whether only operands follow. -/
  operandsOnly : Bool

namespace Seen

def nothing : Seen := ⟨none, none, false, false, false⟩

def withScript (s : Seen) (path : String) : Except Stop Seen :=
  if s.script.isSome then .error (.error (.unexpectedOperand path))
  else if path = "" then .error (.error .emptyScript)
  else .ok { s with script := some path }

def withMarker (s : Seen) (marker : String) : Except Stop Seen :=
  if s.marker.isSome then .error (.error (.repeated "--marker"))
  else .ok { s with marker := some marker, awaitsMarker := false }

def beVerbose (s : Seen) : Except Stop Seen :=
  if s.verbose then .error (.error (.repeated "--verbose")) else .ok { s with verbose := true }

/-- Short options run together. -/
def withCluster (s : Seen) : List Char → Except Stop Seen
  | [] => .ok s
  | 'h' :: _ => .error .help
  | 'v' :: cs => do (← s.beVerbose).withCluster cs
  | ['m'] => .ok { s with awaitsMarker := true }
  | 'm' :: '=' :: cs => s.withMarker (String.ofList cs)
  | 'm' :: cs => s.withMarker (String.ofList cs)
  | c :: _ => .error (.error (.unknownOption (String.ofList ['-', c])))

/-- A long option, with a value if there was a `=`. -/
def withLong (s : Seen) (name : List Char) (value : Option (List Char)) : Except Stop Seen :=
  match String.ofList name, value with
  | "marker", some value => s.withMarker (String.ofList value)
  | "marker", none => .ok { s with awaitsMarker := true }
  | "verbose", none => s.beVerbose
  | "help", none => .error .help
  | "verbose", some _ => .error (.error (.unexpectedValue "--verbose"))
  | "help", some _ => .error (.error (.unexpectedValue "--help"))
  | name, _ => .error (.error (.unknownOption ("--" ++ name)))

/-- What follows the first `=`, if there is one. -/
def valueOf (cs : List Char) : Option (List Char) :=
  match cs.dropWhile (· != '=') with
  | [] => none
  | _ :: value => some value

/-- **Reads one argument.** -/
def step (s : Seen) (argument : String) : Except Stop Seen :=
  if s.operandsOnly then s.withScript argument
  else match s.awaitsMarker, argument.toList with
    | true, '-' :: _ :: _ => .error (.error (.missingValue "--marker"))
    | true, _ => s.withMarker argument
    | false, ['-', '-'] => .ok { s with operandsOnly := true }
    | false, '-' :: '-' :: cs => s.withLong (cs.takeWhile (· != '=')) (valueOf cs)
    | false, '-' :: c :: cs => s.withCluster (c :: cs)
    | false, _ => s.withScript argument

/-- What the arguments come to once all have been read. -/
def options (s : Seen) : Except Stop Options :=
  if s.awaitsMarker then .error (.error (.missingValue "--marker"))
  else match s.script with
    | none => .error (.error .missingScript)
    | some script => .ok ⟨script, s.marker.getD Dispatcher.defaultMarker, s.verbose⟩

end Seen

/-- **The options a command line spells.** -/
def Options.ofArguments (arguments : List String) : Except Stop Options :=
  arguments.foldlM Seen.step .nothing >>= Seen.options

end DocDispatch.CommandLine
