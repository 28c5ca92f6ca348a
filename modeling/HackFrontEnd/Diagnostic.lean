import HackFrontEnd.Text.Decimal

/-!
# Faults and diagnostics

A `Fault` is a cause, a `Diagnostic` is a fault at a place in a source. The wording of every fault
is in `Fault.detail` and `Fault.hint`, the layout of a report in `Diagnostic.message`.

A report is the location and the detail on one line, the source line indented below it, and a hint
for fixing the fault below that, where there are any.

Callers single failures out by family. The families form a hierarchy in which a failure may have
more than one wider family: a missing current instruction is a misuse of the cursor, and also a
malformed instruction for those who only handle that.
-/

namespace HackFrontEnd

/-! ## Source locations -/

/-- A physical line of a named source, counted from one. The language has one instruction a line, so
a line number is enough to point at a fault. -/
structure Location where
  filename : String
  line : Int
deriving DecidableEq, Repr

/-- The name that sources without a file go by. -/
def Location.unnamed : String := "<input>"

/-- The file name and the line number with a colon between them. -/
def Location.text (l : Location) : String :=
  l.filename ++ ":" ++ Text.Decimal.ofInt l.line

/-! ## Families of failures -/

/-- The kinds of failure a caller may want to tell apart. -/
inductive Family
  /-- Anything that this library reports about its input. -/
  | frontEnd
  /-- Anything about a symbol table. -/
  | symbolTable
  /-- A symbol that its table does not hold. -/
  | unknownSymbol
  /-- Anything about instructions and the cursor over them. -/
  | parse
  /-- An instruction outside the grammar. -/
  | malformed
  /-- An operand that the kind of instruction does not have. -/
  | operandAccess
  /-- A cursor used in a state that does not allow it. -/
  | cursorState
  /-- A question about the current instruction while there is none. -/
  | noCurrent
  /-- A key that a mapping does not hold. -/
  | missingKey
deriving DecidableEq, Repr

namespace Family

/-- All families, wider ones first. -/
def all : List Family :=
  [frontEnd, symbolTable, unknownSymbol, parse, malformed, operandAccess, cursorState, noCurrent,
    missingKey]

/-- The name that callers single a family out by. -/
def name : Family → String
  | frontEnd => "HackError"
  | symbolTable => "SymbolTableError"
  | unknownSymbol => "UnknownSymbolError"
  | parse => "VMParseError"
  | malformed => "MalformedCommandError"
  | operandAccess => "InvalidOperandAccessError"
  | cursorState => "ParserStateError"
  | noCurrent => "NoCurrentCommandError"
  | missingKey => "KeyError"

/-- The families one step wider. -/
def wider : Family → List Family
  | frontEnd | missingKey => []
  | symbolTable | parse => [frontEnd]
  | unknownSymbol => [symbolTable, missingKey]
  | malformed | operandAccess | cursorState => [parse]
  | noCurrent => [cursorState, malformed]

/-- The family itself and the wider families at most three steps away, which is all of them. -/
def lineage (f : Family) : List Family :=
  let step (fs : List Family) := fs ++ fs.flatMap wider
  step (step (step [f]))

/-- Whether a failure of the first family is also one of the second. -/
def within (f g : Family) : Bool :=
  f.lineage.contains g

/-- A wider family of a wider family is a wider family. -/
theorem within_trans {f g h : Family} (hfg : f.within g) (hgh : g.within h) : f.within h := by
  revert hfg hgh
  cases f <;> cases g <;> cases h <;> decide

end Family

/-! ## Faults -/

/-- A question about the current instruction. -/
inductive Accessor
  | kind
  | arg1
  | arg2
deriving DecidableEq, Repr

/-- The name of the question in reports. -/
def Accessor.name : Accessor → String
  | .kind => "command_type"
  | .arg1 => "arg1"
  | .arg2 => "arg2"

/-- What is wrong with an instruction or with the use of a cursor. -/
inductive Fault
  /-- The instruction has no words. -/
  | emptyInstruction
  /-- The first word is no keyword; `close` are keywords like it. -/
  | unknownKeyword (keyword : String) (close : List String)
  /-- The first operand is missing. -/
  | missingArgument (keyword : String)
  /-- The second operand is missing. -/
  | missingNumber (keyword : String)
  /-- The second operand of an instruction with this keyword and first operand is no numeral. -/
  | notANumber (numeral keyword argument : String)
  /-- The kind of instruction has no such operand. -/
  | undefinedOperand (operand kind : String)
  /-- The cursor is past the last instruction. -/
  | noMoreInstructions
  /-- The cursor has no current instruction. -/
  | noCurrentInstruction (accessor : Accessor)
  /-- A fault that a caller words itself. -/
  | stated (family : Family) (detail : String) (hint : Option String)
deriving DecidableEq, Repr

/-- Names in single quotes, with commas between them. -/
def quotedNames (names : List String) : String :=
  ", ".intercalate (names.map fun n => "'" ++ n ++ "'")

namespace Fault

/-- The family that a fault belongs to. -/
def family : Fault → Family
  | emptyInstruction | unknownKeyword .. | missingArgument .. | missingNumber ..
  | notANumber .. => .malformed
  | undefinedOperand .. => .operandAccess
  | noMoreInstructions => .cursorState
  | noCurrentInstruction .. => .noCurrent
  | stated family .. => family

/-- The fault in words. -/
def detail : Fault → String
  | emptyInstruction => "empty instruction"
  | unknownKeyword keyword _ => "unknown command keyword '" ++ keyword ++ "'"
  | missingArgument keyword => "'" ++ keyword ++ "' requires an argument"
  | missingNumber keyword => "'" ++ keyword ++ "' requires a numeric second argument"
  | notANumber numeral _ _ => "'" ++ numeral ++ "' is not a non-negative integer"
  | undefinedOperand operand kind => operand ++ "() is not defined for " ++ kind ++ " commands"
  | noMoreInstructions => "advance() called with no remaining commands"
  | noCurrentInstruction accessor => accessor.name ++ "() called with no current command"
  | stated _ detail _ => detail

/-- How the fault may be mended. -/
def hint : Fault → Option String
  | unknownKeyword _ [] => none
  | unknownKeyword _ close => some ("did you mean " ++ quotedNames close ++ "?")
  | notANumber _ keyword argument => some ("usage: " ++ keyword ++ " " ++ argument ++ " <n>")
  | noMoreInstructions => some "check has_more_commands() before advancing"
  | noCurrentInstruction _ => some "call advance() first"
  | stated _ _ hint => hint
  | _ => none

end Fault

/-- A fault, the location of the instruction it is about, and the text of that instruction. -/
structure Diagnostic where
  fault : Fault
  location : Option Location := none
  sourceLine : Option String := none
deriving DecidableEq, Repr

namespace Diagnostic

/-- The lines of the report. An empty hint is left out. -/
def report (d : Diagnostic) : List String :=
  let place := match d.location with
    | some l => l.text ++ ": "
    | none => ""
  let source := d.sourceLine.map ("    " ++ ·)
  let hint := (d.fault.hint.filter (· ≠ "")).map ("hint: " ++ ·)
  (place ++ "error: " ++ d.fault.detail) :: (source.toList ++ hint.toList)

/-- The report as one text. -/
def message (d : Diagnostic) : String :=
  "\n".intercalate d.report

end Diagnostic

/-- What comes of asking an instruction or a cursor for something it does not have. -/
inductive ReadError
  /-- The instruction or the use of the cursor is at fault. -/
  | diagnostic (d : Diagnostic)
  /-- A numeral has more digits than are read. -/
  | numeralTooLong (digits : Nat)
deriving DecidableEq, Repr

namespace ReadError

/-- The wording for a numeral beyond the limit on digits. -/
def tooLongMessage (digits : Nat) : String :=
  "Exceeds the limit (" ++ Text.Decimal.ofNat Text.Decimal.maxDigits ++
    " digits) for integer string conversion: value has " ++ Text.Decimal.ofNat digits ++
    " digits; use sys.set_int_max_str_digits() to increase the limit"

/-- The error in words. -/
def message : ReadError → String
  | diagnostic d => d.message
  | numeralTooLong digits => tooLongMessage digits

end ReadError

end HackFrontEnd
