import HackFrontEnd.CommandLine.Options
import HackFrontEnd.CommandLine.Outcome
import HackFrontEnd.Text.ControlSequence

/-!
# Tools

What the tools have in common: a name, a usage, options, formats of output, and telling about
themselves. A tool reads all of its arguments first. If it is then asked about itself it answers
that, and otherwise does its work.
-/

namespace HackFrontEnd.CommandLine

/-! ## Formats of output -/

/-- The forms in which a tool can write its output. -/
inductive Format
  | text
  | json
deriving DecidableEq, Repr

namespace Format

/-- The name of a format. -/
def name : Format → String
  | text => "text"
  | json => "json"

/-- All formats, in the order in which they are named. -/
def all : List Format := [text, json]

/-- The letter without its case, for letters that differ from one of ASCII in case alone. Besides
the capitals of ASCII these are the long s and the Kelvin sign. -/
def caseless (c : Char) : Char :=
  if c = '\u017f' then 's' else if c = '\u212a' then 'k' else c.toLower

/-- The format that a value names, in letters of either case. -/
def find? (value : String) : Option Format :=
  let name := String.ofList (value.toList.map caseless)
  all.find? (·.name == name)

/-- The parameter that chooses the format, in messages. -/
def parameter : String := "'-f' / '--format'"

/-- The format that a value names. -/
def ofValue (value : String) : Except UsageFault Format :=
  match find? value with
  | some f => .ok f
  | none => .error (.notAChoice parameter value (all.map name))

/-- The format that was chosen, text if none was. -/
def chosen : Option String → Except UsageFault Format
  | none => .ok text
  | some value => ofValue value

end Format

/-! ## Tools and their arguments -/

/-- The version that every tool shows. -/
def version : String := "1.0.0"

/-- What the library offers under a name of its own, in alphabetical order. -/
def publicNames : List String :=
  let reported := Family.all.filter (Family.within · .frontEnd)
  (reported.map Family.name ++
    ["Command", "CommandType", "Parser", "RESERVED_SYMBOLS", "SourceLocation", "SymbolTable",
      "ToolchainConfig", "__version__", "clean_source", "create_symbol_table",
      "parse_vm"]).mergeSort (· ≤ ·)

/-- What a tool can tell about itself. -/
inductive Notice
  | help
  | version
deriving DecidableEq, Repr

/-- Why arguments ask a tool for nothing. -/
inductive Refusal
  | usage (f : UsageFault)
  /-- A path cannot even be looked up, which nothing handles. -/
  | path (f : File.Fault)
deriving DecidableEq, Repr

/-- A tool with the options in `α`. -/
structure Tool (α : Type) where
  name : String
  /-- What follows the name in the usage. -/
  usage : String
  /-- The help below the usage. -/
  body : String
  specs : List (OptionSpec α)
  /-- The options that ask a tool about itself. -/
  notice? : α → Option Notice

namespace Tool

variable {α : Type}

/-- The usage in one line. -/
def usageLine (t : Tool α) : String :=
  "Usage: " ++ t.name ++ " " ++ t.usage ++ "\n"

/-- The outcome of asking a tool about itself. -/
def tell (t : Tool α) : Notice → Outcome
  | .help => { stdout := t.usageLine ++ t.body }
  | .version => { stdout := t.name ++ ", version " ++ CommandLine.version ++ "\n" }

/-- The outcome of arguments that are not valid. -/
def refuse (t : Tool α) (f : UsageFault) : Outcome :=
  let usage :=
    if f.showsUsage then t.usageLine ++ "Try '" ++ t.name ++ " --help' for help.\n\n" else ""
  { ending := .exit .invalidArguments
    stderr := usage ++ Text.plain ("Error: " ++ f.message ++ "\n") }

/-- What arguments ask a tool to do, or the outcome of a run that is not asked for anything. The
first option that asks the tool about itself wins over its work, and over the checks that the work
makes. -/
def settle {ρ : Type} (t : Tool α) (request : Arguments α → Except Refusal ρ)
    (args : List String) : Except Outcome ρ :=
  match readArguments t.specs args with
  | .error f => .error (t.refuse f)
  | .ok a =>
    match a.options.findSome? (t.notice? ·.option) with
    | some notice => .error (t.tell notice)
    | none =>
      match request a with
      | .ok r => .ok r
      | .error (.usage f) => .error (t.refuse f)
      | .error (.path f) => .error { ending := .uncaught (.file f) }

end Tool

end HackFrontEnd.CommandLine
