import HackFrontEnd.CommandLine.Outcome
import HackFrontEnd.CommandLine.Tool
import HackFrontEnd.Listing

/-!
# The tool that lists a source file

Its arguments name a file, a format and possibly a file for the output. The instructions of the
source are described one by one; the first that is at fault ends the run before anything is written.

A run has no say in what is around it: how arguments are read, where files are, how bytes are
decoded and what streams make of a text. All of that is a `Host`, and a run takes it as it is.
-/

namespace HackFrontEnd.CommandLine.ListTool

/-! ## Requests and hosts -/

/-- What a run is asked to do. -/
structure Request where
  input : String
  output : Option String := none
  format : Format := .text
  verbose : Bool := false
deriving DecidableEq, Repr

/-- A fault in the middle of putting something out, and what was put out until then. -/
structure Interruption (α : Type) where
  fault : Unhandled
  left : α
deriving DecidableEq, Repr

/-- What a run finds around it.

Names and texts are made of characters. Bytes of names that are no text, and halves of surrogate
pairs, are no characters; characters that occur nowhere else stand for them, and only the host can
tell which these are. The streams are read to their end. -/
structure Host where
  /-- What is found at each path. -/
  look : File.View
  codecs : Codecs
  /-- The code point that a character stands for. -/
  codePoint : Char → Nat
  /-- Make a text the content of the file at a tidy path. If that is interrupted, the file may have
  been left as it was, or with another text. -/
  store : String → String → Except (Interruption (Option String)) Unit
  /-- What the output stream shows of a text. -/
  print : String → Except (Interruption String) String
  /-- What the error stream shows of a text. -/
  report : String → String
  /-- The request that arguments make, or the outcome of a run on arguments that make none. -/
  settle : List String → Except Outcome Request

/-! ## Describing a source -/

/-- What the records of a run put on the error stream, control sequences included. A verbose run
shows all of them with their levels, another those from the level of the settings on. -/
def shownRecords (settings : Settings) (verbose : Bool) (records : List LogRecord) : String :=
  let visible := records.filter fun r => verbose || settings.logThreshold ≤ r.level.number
  String.join (visible.map fun r => (if verbose then r.labelled else r.message) ++ "\n")

/-- The record of a source whose instructions were all described. -/
def parsed (count : Nat) (path : String) : LogRecord :=
  ⟨.debug, "Parsed " ++ Text.Decimal.ofNat count ++ " commands from " ++ path⟩

/-- The records and the entries of a source, or its first failure. -/
def listing (host : Host) (settings : Settings) (input : String) :
    List LogRecord × Except Failure (List Listing.Entry) :=
  match File.load host.codecs host.look settings input with
  | .error e => ([], .error (.load e))
  | .ok cursor =>
    match cursor.drain.1.mapM Instruction.describe with
    | .error e => ([cursor.opened], .error (.ofReadError e))
    | .ok entries => ([cursor.opened, parsed entries.length cursor.filename], .ok entries)

/-- Entries in a format. Only JSON tells of the code points behind characters. -/
def rendered (codePoint : Char → Nat) (format : Format) (entries : List Listing.Entry) : String :=
  match format with
  | .text => Listing.rows entries
  | .json => (Listing.json entries).text codePoint

/-! ## Putting out a listing -/

/-- The outcome of putting a text on the output stream. -/
def Host.say (host : Host) (text : String) : Outcome :=
  match host.print text with
  | .ok shown => { stdout := shown }
  | .error i => { ending := .uncaught i.fault, stdout := i.left }

/-- What a verbose run notes about a file that it wrote. -/
def note (count : Nat) (path : String) : String :=
  "Wrote " ++ Text.Decimal.ofNat count ++ " commands to " ++ path ++ "\n"

/-- The outcome of putting a listing where it belongs. The file is written before anything is said
about it, and a fault on the way is not handled. -/
def deliver (host : Host) (r : Request) (entries : List Listing.Entry) : Outcome :=
  let text := rendered host.codePoint r.format entries ++ "\n"
  match r.output with
  | none => host.say text
  | some output =>
    let path := File.Path.tidy output
    match host.store path text with
    | .error i => { ending := .uncaught i.fault, written := i.left.map (path, ·) }
    | .ok () =>
      let noted := if r.verbose then host.say (note entries.length path) else {}
      { noted with written := some (path, text) }

/-! ## Runs -/

/-- The outcome of a request. -/
def perform (host : Host) (settings : Settings) (r : Request) : Outcome :=
  let (records, result) := listing host settings r.input
  let outcome := match result with
    | .error f => failed host.report r.verbose "" f
    | .ok entries => deliver host r entries
  { outcome with stderr := shownRecords settings r.verbose records ++ outcome.stderr }

/-- The outcome of a run. A fault in reading the environment is not handled. -/
def run (host : Host) (env : Environment) (args : List String) : Outcome :=
  match host.settle args with
  | .error outcome => outcome
  | .ok r =>
    match Settings.read host.codecs.isKnown env with
    | .error message => { ending := .uncaught (.encoding message) }
    | .ok settings => perform host settings r

end HackFrontEnd.CommandLine.ListTool
