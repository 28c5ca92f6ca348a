import HackFrontEnd.Instruction.Basic

/-!
# Source texts

From a text to its instructions: every physical line is trimmed, and the lines that are then empty
or start with the comment marker are left out. The numbers of the others are those of the physical
lines.

- `clean_append_newline`: cleaning two texts with a line feed between them cleans each, and counts
  the lines of the second on from those of the first.
-/

namespace HackFrontEnd.Source

/-- The marker of comment lines where no settings say otherwise. -/
def defaultMarker : String := "/"

/-- Whether a trimmed line is an instruction: neither empty nor a comment. -/
def isInstruction (marker : String) (line : List Char) : Bool :=
  !line.isEmpty && !marker.toList.isPrefixOf line

/-- The instruction on a numbered line, if there is one. -/
def instructionOn? (marker : String) (line : List Char × Nat) : Option (Nat × String) :=
  let text := Text.trim line.1
  if isInstruction marker text then some (line.2, String.ofList text) else none

/-- The instructions among lines numbered from a start. -/
def cleanFrom (marker : String) (start : Nat) (lines : List (List Char)) : List (Nat × String) :=
  (lines.zipIdx start).filterMap (instructionOn? marker)

/-- The numbers and texts of the lines that are instructions. -/
def clean (marker source : String) : List (Nat × String) :=
  cleanFrom marker 1 (Text.lines source.toList)

/-- The instructions of a source. -/
def instructions (marker filename source : String) : List Instruction :=
  (clean marker source).map fun (line, text) => ⟨text, line, filename⟩

/-- The text with a line feed for every pair of carriage return and line feed, and for every other
carriage return. -/
def unifyLineEnds : List Char → List Char
  | [] => []
  | '\r' :: '\n' :: cs => '\n' :: unifyLineEnds cs
  | '\r' :: cs => '\n' :: unifyLineEnds cs
  | c :: cs => c :: unifyLineEnds cs

/-! ## Laws -/

/-- Lines are cleaned one by one, with their numbers going on. -/
theorem cleanFrom_append (marker : String) (start : Nat) (xs ys : List (List Char)) :
    cleanFrom marker start (xs ++ ys) =
      cleanFrom marker start xs ++ cleanFrom marker (start + xs.length) ys := by
  simp [cleanFrom, List.zipIdx_append]

/-- What is behind a line feed is cleaned by itself, with its numbers going on. -/
theorem clean_append_newline (marker a b : String) :
    clean marker (a ++ "\n" ++ b) =
      clean marker a ++
        cleanFrom marker (1 + (Text.lines a.toList).length) (Text.lines b.toList) := by
  simp [clean, ← cleanFrom_append, ← Text.lines_append_newline]

end HackFrontEnd.Source
