import HackFrontEnd.Instruction.Basic
import HackFrontEnd.Json.Basic

/-!
# Listings of instructions

What a listing tells about an instruction, and its two written forms: aligned rows of text and JSON.
The columns of a row are padded with spaces. Widths count characters, and a text that is too wide
for its column is left as it is.
-/

namespace HackFrontEnd

namespace Text

/-- The text at the right end of a column. -/
def alignRight (width : Nat) (s : String) : String :=
  String.ofList (List.replicate (width - s.length) ' ') ++ s

/-- The text at the left end of a column. -/
def alignLeft (width : Nat) (s : String) : String :=
  s ++ String.ofList (List.replicate (width - s.length) ' ')

end Text

namespace Listing

/-- A line of a listing. Operands that the kind of instruction does not have are left out. -/
structure Entry where
  line : Int
  kind : String
  text : String
  arg1 : Option String := none
  arg2 : Option Int := none
deriving DecidableEq, Repr

/-- The row of an entry: the line and the kind in columns, then the operands. -/
def Entry.row (e : Entry) : String :=
  let line := Text.alignRight 5 (Text.Decimal.ofInt e.line)
  let kind := Text.alignLeft 10 e.kind
  let arg1 := (e.arg1.map ("  " ++ ·)).getD ""
  let arg2 := (e.arg2.map fun n => " " ++ Text.Decimal.ofInt n).getD ""
  String.ofList (Text.trimEnd (line ++ "  " ++ kind ++ arg1 ++ arg2).toList)

/-- The members of an entry, in the order in which they are written. -/
def Entry.toJson (e : Entry) : Json :=
  .object <|
    [("line", .int e.line), ("type", .str e.kind), ("text", .str e.text)] ++
      (e.arg1.map fun a => ("arg1", Json.str a)).toList ++
      (e.arg2.map fun n => ("arg2", Json.int n)).toList

/-- The rows of a listing, a line feed between them. -/
def rows (entries : List Entry) : String :=
  "\n".intercalate (entries.map Entry.row)

/-- The listing as a JSON list. -/
def json (entries : List Entry) : Json :=
  .list (entries.map Entry.toJson)

end Listing

/-- The entry of an instruction: its kind and the operands that instructions of its kind have. -/
def Instruction.describe (i : Instruction) : Except ReadError Listing.Entry := do
  let kind ← i.kind
  let arg1 ← if kind = .ret then pure none else some <$> i.arg1
  let arg2 ← if kind.hasNumber then some <$> i.arg2 else pure none
  pure { line := i.line, kind := kind.name, text := i.text, arg1, arg2 := arg2.map Int.ofNat }

end HackFrontEnd
