import HackFrontEnd.CommandLine.ListTool
import HackFrontEnd.Encoding.Decode

/-!
# A host for the tool that lists a source file

What a run finds around it where files and directories are given, the codecs are those of this
library, and neither stream is a terminal: there, texts are shown without control sequences. This is
one host among many, and what holds of runs is stated for others as well.
-/

namespace HackFrontEnd.CommandLine.ListTool

/-! ## Arguments -/

/-- The options of the tool. -/
inductive Switch
  | output
  | format
  | verbose
  | version
  | help
deriving DecidableEq, Repr

/-- The tool: its options and its help. -/
def tool : Tool Switch where
  name := "hackparse"
  usage := "[OPTIONS] INPUT_FILE"
  body :=
    "\n" ++
    "  Parse a Hack VM file and list its commands.\n" ++
    "\n" ++
    "  INPUT_FILE is the VM source file (.vm) to parse.\n" ++
    "\n" ++
    "  Examples:\n" ++
    "      hackparse Main.vm                  # Text listing on stdout\n" ++
    "      hackparse Main.vm -f json -o x.json\n" ++
    "\n" ++
    "Options:\n" ++
    "  -o, --output FILE         Output file (default: stdout)\n" ++
    "  -f, --format [text|json]  Output format. Default: text\n" ++
    "  -v, --verbose             Verbose output\n" ++
    "  --version                 Show the version and exit.\n" ++
    "  --help                    Show this message and exit.\n"
  specs :=
    [{ option := .output, short := some 'o', long := "--output", valued := true },
      { option := .format, short := some 'f', long := "--format", valued := true },
      { option := .verbose, short := some 'v', long := "--verbose" },
      { option := .version, long := "--version" },
      { option := .help, long := "--help" }]
  notice?
    | .help => some .help
    | .version => some .version
    | _ => none

/-- The parameter that names the output, in messages. -/
def outputParameter : String := "'-o' / '--output'"

/-- The name of the operand, in the usage. -/
def inputName : String := "INPUT_FILE"

/-- What is found at a path that a parameter names. -/
def lookUp (look : File.View) (path : String) : Except Refusal File.Access :=
  match File.pathFault? path with
  | some f => .error (.path f)
  | none => .ok (look path)

/-- The format that arguments ask for. -/
def formatOf (a : Arguments Switch) : Except Refusal Format :=
  (Format.chosen (a.value? .format)).mapError .usage

/-- The fault in the value of an option, if there is one. An output must not be a directory, nor a
file that may not be opened. -/
def checkOption (look : File.View) (a : Arguments Switch) : Switch → Except Refusal Unit
  | .output =>
    match a.value? .output with
    | some path => do
      match ← lookUp look path with
      | .directory => throw (.usage (.isDirectory outputParameter path))
      | .denied => throw (.usage (.notReadable outputParameter path))
      | _ => pure ()
    | none => .ok ()
  | .format => (formatOf a).map fun _ => ()
  | _ => .ok ()

/-- The fault in the name of the input, if there is one. It must be a file that may be opened. -/
def checkInput (look : File.View) (path : String) : Except Refusal Unit := do
  let parameter := "'" ++ inputName ++ "'"
  match ← lookUp look path with
  | .file .. | .unreadable _ => pure ()
  | .directory => throw (.usage (.isDirectory parameter path))
  | .denied => throw (.usage (.notReadable parameter path))
  | _ => throw (.usage (.noSuchFile parameter path))

/-- The request that arguments make. The options are checked in the order in which they first came,
then the input, and surplus operands last. -/
def request (look : File.View) (a : Arguments Switch) : Except Refusal Request := do
  a.distinct.forM (checkOption look a)
  match a.operands with
  | [] => throw (.usage (.missingOperand inputName))
  | input :: surplus =>
    -- a bad input is reported before surplus operands are
    checkInput look input
    if !surplus.isEmpty then throw (.usage (.unexpectedOperands surplus))
    let format ← formatOf a
    pure { input, output := a.value? .output, format, verbose := a.has .verbose }

/-- The request that arguments make, or the outcome of a run on arguments that make none. -/
def settle (look : File.View) (args : List String) : Except Outcome Request :=
  tool.settle (request look) args

/-- The paths that a run on these arguments looks at. -/
def paths (args : List String) : List String :=
  match readArguments tool.specs args with
  | .error _ => []
  | .ok a =>
    (a.operands.take 1 ++ (a.value? .output).toList).flatMap fun path =>
      [path, File.Path.tidy path, File.Path.parent (File.Path.tidy path)]

/-! ## The host -/

namespace Host

/-- The host where files are found as described, and characters stand for some code points. A file
is emptied before a text is encoded for it. -/
def ofView (look : File.View) (codePoint : Char → Nat := Char.toNat) : Host where
  look := look
  codecs := .builtin
  codePoint := codePoint
  store path text :=
    match look.writeFault? path, Encoding.halvesFault? codePoint text.toList with
    | some f, _ => .error ⟨.file f, none⟩
    | none, some message => .error ⟨.encoding message, some ""⟩
    | none, none => .ok ()
  print text :=
    match Encoding.halvesFault? codePoint text.toList with
    | some message => .error ⟨.encoding message, ""⟩
    | none => .ok (Text.plain text)
  report := Text.plain
  settle := ListTool.settle look

/-- The host of a run in an environment, where characters stand for what they do in the encoding
that the environment names. -/
def standard (look : File.View) (env : Environment) : Host :=
  let settings := Settings.ofEnvironmentKnowing Encoding.isKnown env
  ofView look (Encoding.codePointUnder settings.sourceEncoding)

end Host

end HackFrontEnd.CommandLine.ListTool
