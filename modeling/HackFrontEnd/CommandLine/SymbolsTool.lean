import HackFrontEnd.CommandLine.Tool
import HackFrontEnd.Listing
import HackFrontEnd.SymbolTable.Basic

/-!
# The tool that lists the reserved symbols

The symbols of a fresh table by address, as rows of text or as one JSON object.
-/

namespace HackFrontEnd.CommandLine.SymbolsTool

/-- The options of the tool. -/
inductive Switch
  | format
  | version
  | help
deriving DecidableEq, Repr

/-- The tool: its options and its help. -/
def tool : Tool Switch where
  name := "hacksyms"
  usage := "[OPTIONS]"
  body :=
    "\n" ++
    "  Print the reserved Hack symbol table, ordered by address.\n" ++
    "\n" ++
    "Options:\n" ++
    "  -f, --format [text|json]  Output format. Default: text\n" ++
    "  --version                 Show the version and exit.\n" ++
    "  --help                    Show this message and exit.\n"
  specs :=
    [{ option := .format, short := some 'f', long := "--format", valued := true },
      { option := .version, long := "--version" },
      { option := .help, long := "--help" }]
  notice?
    | .help => some .help
    | .version => some .version
    | .format => none

/-- The address in hexadecimal, in capitals and with at least four digits. -/
def hexadecimalAddress (address : Int) : String :=
  "0x" ++ String.ofList ((Text.hexadecimal 4 address.toNat).map Char.toUpper)

/-- The row of a symbol: name, address, and the address in hexadecimal. -/
def row (symbol : String × Int) : String :=
  Text.alignLeft 8 symbol.1 ++ " " ++ Text.alignRight 5 (Text.Decimal.ofInt symbol.2) ++ "  (" ++
    hexadecimalAddress symbol.2 ++ ")\n"

/-- The symbols in a format. -/
def rendered : Format → String
  | .text => String.join (SymbolTable.fresh.items.map row)
  | .json =>
    (Json.object (SymbolTable.fresh.items.map fun (name, address) => (name, .int address))).text ++
      "\n"

/-- The format that arguments ask for. -/
def request (a : Arguments Switch) : Except Refusal Format := do
  let format ← (Format.chosen (a.value? .format)).mapError .usage
  if !a.operands.isEmpty then throw (.usage (.unexpectedOperands a.operands))
  pure format

/-- The outcome of a run. -/
def run (args : List String) : Outcome :=
  match tool.settle request args with
  | .ok format => { stdout := rendered format }
  | .error outcome => outcome

end HackFrontEnd.CommandLine.SymbolsTool
