import HackFrontEnd.Log
import HackFrontEnd.Source

/-!
# The cursor

A walk over the instructions of a source, once and in order. The instruction that was handed out
last is the current one until an attempt to go on past the end clears it.

- `Cursor.next?` hands out an instruction if there is one, and otherwise changes nothing.
- `Cursor.advance` does the same, but past the end it is a misuse and leaves nothing current.
- `Cursor.drain` is `Cursor.next?` over and over, until there is nothing left.
-/

namespace HackFrontEnd

/-- The instructions still to come and the current one. -/
structure Cursor where
  filename : String := Location.unnamed
  pending : List Instruction := []
  current : Option Instruction := none
deriving DecidableEq, Repr

namespace Cursor

/-- A cursor before the first instruction of a source. -/
def ofSource (marker filename source : String) : Cursor :=
  { filename, pending := Source.instructions marker filename source }

/-- The record of a cursor that was just made. -/
def opened (c : Cursor) : LogRecord :=
  ⟨.debug, c.filename ++ ": " ++ Text.Decimal.ofNat c.pending.length ++
    " instructions after cleaning"⟩

/-- The number of instructions still to come. -/
def remaining (c : Cursor) : Nat :=
  c.pending.length

/-- Whether an instruction is still to come. -/
def hasMore (c : Cursor) : Bool :=
  !c.pending.isEmpty

/-- The next instruction, which becomes the current one. -/
def next? (c : Cursor) : Option (Instruction × Cursor) :=
  match c.pending with
  | [] => none
  | i :: rest => some (i, { c with pending := rest, current := some i })

/-- The next instruction. Past the end the current one is cleared, so that it is never stale. -/
def advance (c : Cursor) : Except ReadError Instruction × Cursor :=
  match c.next? with
  | some (i, c) => (.ok i, c)
  | none => (.error (.diagnostic { fault := .noMoreInstructions }), { c with current := none })

/-- All instructions still to come. The last of them becomes the current one. -/
def drain (c : Cursor) : List Instruction × Cursor :=
  (c.pending, { c with pending := [], current := c.pending.getLast?.or c.current })

/-- The current instruction, for a question about it. -/
def require (c : Cursor) (question : Accessor) : Except ReadError Instruction :=
  match c.current with
  | some i => .ok i
  | none => .error (.diagnostic { fault := .noCurrentInstruction question })

/-- The kind of the current instruction. -/
def kind (c : Cursor) : Except ReadError Kind :=
  c.require .kind >>= Instruction.kind

/-- The first operand of the current instruction. -/
def arg1 (c : Cursor) : Except ReadError String :=
  c.require .arg1 >>= Instruction.arg1

/-- The second operand of the current instruction. -/
def arg2 (c : Cursor) : Except ReadError Nat :=
  c.require .arg2 >>= Instruction.arg2

/-- Walking to the end of a source finds all its instructions. -/
theorem drain_ofSource (marker filename source : String) :
    (ofSource marker filename source).drain.1 = Source.instructions marker filename source := rfl

/-- Walking to the end of a finished cursor changes nothing. -/
theorem drain_of_next?_eq_none {c : Cursor} (h : c.next? = none) : c.drain = ([], c) := by
  obtain ⟨filename, pending, current⟩ := c
  cases pending with
  | nil => rfl
  | cons i rest => contradiction

/-- Walking to the end takes one step and walks on. -/
theorem drain_of_next?_eq_some {c d : Cursor} {i : Instruction} (h : c.next? = some (i, d)) :
    c.drain = (i :: d.drain.1, d.drain.2) := by
  obtain ⟨filename, pending, current⟩ := c
  cases pending with
  | nil => contradiction
  | cons j rest =>
    cases h
    simp [drain, List.getLast?_cons, Option.or_some]

end Cursor

end HackFrontEnd
