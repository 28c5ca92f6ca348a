import HackFrontEnd.Failure

/-!
# Outcomes of a run

What a run leaves behind: texts on the two output streams, at most one file to write, and how the
run ended. How a stream shows a text is up to the stream.
-/

namespace HackFrontEnd.CommandLine

/-- The codes a tool exits with. -/
inductive ExitCode
  | success
  /-- The source is malformed, or a symbol is not known. -/
  | parseError
  /-- The arguments are not valid, or a file cannot be read. -/
  | invalidArguments
  | internalError
deriving DecidableEq, Repr

namespace ExitCode

/-- All codes, in the order of their numbers. -/
def all : List ExitCode := [success, parseError, invalidArguments, internalError]

/-- The name of a code. -/
def name : ExitCode → String
  | success => "SUCCESS"
  | parseError => "PARSE_ERROR"
  | invalidArguments => "INVALID_ARGS"
  | internalError => "INTERNAL_ERROR"

/-- The number of a code. -/
def number : ExitCode → Nat
  | success => 0
  | parseError => 1
  | invalidArguments => 2
  | internalError => 3

end ExitCode

/-- A fault that nothing in a run handles. -/
inductive Unhandled
  | file (f : File.Fault)
  /-- A text or a name that cannot be encoded, in the words of the codec. -/
  | encoding (message : String)
deriving DecidableEq, Repr

/-- The fault in words. -/
def Unhandled.message : Unhandled → String
  | file f => f.message
  | encoding message => message

/-- How a run ends. -/
inductive Ending
  | exit (code : ExitCode)
  | uncaught (f : Unhandled)
deriving DecidableEq, Repr

/-- The number a run ends with. An unhandled fault ends it with one. -/
def Ending.number : Ending → Nat
  | exit code => code.number
  | uncaught _ => 1

/-- What a run leaves behind. -/
structure Outcome where
  ending : Ending := .exit .success
  stdout : String := ""
  stderr : String := ""
  /-- The path of the file that the run writes, and the text that is then in it. -/
  written : Option (String × String) := none
deriving DecidableEq, Repr

/-- The exit code that a failure leads to. -/
def exitCodeOf : Failure → ExitCode
  | .frontEnd _ => .parseError
  | .load (.file (.notFound _)) => .invalidArguments
  | .load (.file (.permissionDenied _)) => .invalidArguments
  | .load (.decode (.undecodable _)) => .invalidArguments
  | .outside .badParameter _ => .invalidArguments
  | .outside .fileNotFound _ => .invalidArguments
  | .outside .permissionDenied _ => .invalidArguments
  | _ => .internalError

section Failing

-- what the error stream shows of a text
variable (report : String → String)

/-- What is said about a failure. A label goes in front of what this library reports, and internal
errors announce where they arose when the run is verbose. -/
def complaint (verbose : Bool) (label : String) (f : Failure) : String :=
  let words := match f, exitCodeOf f with
    | .frontEnd _, _ => if label = "" then "" else label ++ " "
    | .load (.decode (.undecodable _)), _ => "Error: cannot decode source: "
    | _, .invalidArguments => "Error: "
    | _, _ => "Internal error: "
  let trace :=
    if verbose && exitCodeOf f = .internalError then "Traceback (most recent call last):\n" else ""
  report (words ++ f.message ++ "\n") ++ trace

/-- The outcome of a run that fails. -/
def failed (verbose : Bool) (label : String) (f : Failure) : Outcome :=
  { ending := .exit (exitCodeOf f), stderr := complaint report verbose label f }

end Failing

end HackFrontEnd.CommandLine
