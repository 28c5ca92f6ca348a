import HackFrontEnd.Diagnostic
import HackFrontEnd.Instruction.Kind
import HackFrontEnd.Text.Split
import HackFrontEnd.Text.Similarity

/-!
# Instructions

One line of a source, read by words: the first selects the kind, the second is the first operand,
the third the second operand. Words after the third are not looked at.

| keyword                          | `arg1`        | `arg2` |
|----------------------------------|---------------|--------|
| an arithmetic operator           | the operator  |        |
| `push`, `pop`                    | segment       | index  |
| `label`, `goto`, `if-goto`       | label         |        |
| `function`, `call`               | function name | count  |
| `return`                         |               |        |

The kind is settled before any operand is looked at, so a fault in the keyword wins over one in an
operand.
-/

namespace HackFrontEnd

/-- The text of an instruction and the line it stands on. -/
structure Instruction where
  text : String
  line : Int := 0
  filename : String := Location.unnamed
deriving DecidableEq, Repr

namespace Instruction

/-- Where the instruction stands. -/
def location (i : Instruction) : Location :=
  ⟨i.filename, i.line⟩

/-- The words of the instruction. -/
def words (i : Instruction) : List String :=
  (Text.words i.text.toList).map String.ofList

/-- The first word, empty if there is none. -/
def keyword (i : Instruction) : String :=
  i.words.headD ""

/-- A fault of this instruction. -/
def faulty (i : Instruction) (f : Fault) : ReadError :=
  .diagnostic ⟨f, some i.location, some i.text⟩

/-- The kind that the first word selects. -/
def kind (i : Instruction) : Except ReadError Kind :=
  if i.words = [] then .error (i.faulty .emptyInstruction)
  else match Kind.ofKeyword? i.keyword with
    | some k => .ok k
    | none =>
      let close := Text.closeMatches i.keyword (keywords.map Prod.fst)
      .error (i.faulty (.unknownKeyword i.keyword close))

/-- The first operand: the operator of an arithmetic instruction, else the second word. -/
def arg1 (i : Instruction) : Except ReadError String := do
  match ← i.kind with
  | .arithmetic => pure i.keyword
  | .ret => throw (i.faulty (.undefinedOperand Accessor.arg1.name Kind.ret.name))
  | _ =>
    match i.words[1]? with
    | some argument => pure argument
    | none => throw (i.faulty (.missingArgument i.keyword))

/-- The number that a numeral in the third word denotes. -/
def readNumber (i : Instruction) (keyword argument numeral : String) : Except ReadError Nat :=
  match Text.Decimal.read numeral.toList with
  | .ok n => .ok n
  | .error .notANumeral => .error (i.faulty (.notANumber numeral keyword argument))
  | .error (.tooLong digits) => .error (.numeralTooLong digits)

/-- The second operand: the number in the third word. -/
def arg2 (i : Instruction) : Except ReadError Nat := do
  let kind ← i.kind
  if !kind.hasNumber then
    throw (i.faulty (.undefinedOperand Accessor.arg2.name kind.name))
  match i.words with
  | keyword :: argument :: numeral :: _ => i.readNumber keyword argument numeral
  | _ => throw (i.faulty (.missingNumber i.keyword))

/-- Whether instructions of this kind have a second operand. -/
def hasArg2 (i : Instruction) : Except ReadError Bool :=
  i.kind.map Kind.hasNumber

end Instruction

end HackFrontEnd
