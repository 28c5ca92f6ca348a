/-!
# Control sequences

A control sequence tells a terminal what to do. It consists of an escape, an opening bracket, any
number of parameter characters, then of intermediate characters, and one final character, each of
these from a range of its own in ASCII. A stream that is no terminal shows texts without them.

- `withoutControlSequences`: one pass over a text that leaves each control sequence out whole.
- `withoutControlSequences_of_not_mem`: a text without an escape stays as it is.
-/

namespace HackFrontEnd.Text

namespace ControlSequence

/-- The character that a control sequence starts with. -/
def escape : Char := '\x1b'

/-- Whether a character may be among the parameters: a digit, or one of `:;<=>?`. -/
def isParameter (c : Char) : Bool := '0' ≤ c && c ≤ '?'

/-- Whether a character may follow the parameters: a space, or one of the signs up to `/`. -/
def isIntermediate (c : Char) : Bool := ' ' ≤ c && c ≤ '/'

/-- Whether a character ends a control sequence: a letter, or a sign between or around letters. -/
def isFinal (c : Char) : Bool := '@' ≤ c && c ≤ '~'

/-- What follows the control sequence that a text starts with, if it starts with one. -/
def after? : List Char → Option (List Char)
  | '\x1b' :: '[' :: cs =>
    match (cs.dropWhile isParameter).dropWhile isIntermediate with
    | c :: rest => if isFinal c then some rest else none
    | [] => none
  | _ => none

theorem length_lt_of_after? {cs rest : List Char} (h : after? cs = some rest) :
    rest.length < cs.length := by
  unfold after? at h
  split at h
  · rename_i body
    split at h
    · rename_i c rest' hrest
      have hle := ((List.dropWhile_suffix isIntermediate (l := body.dropWhile isParameter)).trans
        (List.dropWhile_suffix isParameter)).length_le
      simp_all
      omega
    · simp at h
  · simp at h

theorem after?_of_ne_escape {c : Char} (h : c ≠ escape) (cs : List Char) :
    after? (c :: cs) = none := by
  unfold after?
  split
  · exact absurd (by simp_all [escape]) h
  · rfl

end ControlSequence

/-- The text without its control sequences. What is left of a sequence that breaks off stays, and so
does a sequence that only arises when another is left out. -/
def withoutControlSequences : List Char → List Char
  | [] => []
  | c :: cs =>
    match _h : ControlSequence.after? (c :: cs) with
    | some rest => withoutControlSequences rest
    | none => c :: withoutControlSequences cs
termination_by cs => cs.length
decreasing_by
  · exact ControlSequence.length_lt_of_after? ‹_›
  · simp

/-- The text as a stream shows it that is no terminal. -/
def plain (s : String) : String :=
  String.ofList (withoutControlSequences s.toList)

/-! ## Laws -/

/-- A character that starts no control sequence stays. -/
theorem withoutControlSequences_of_after?_eq_none {c : Char} {cs : List Char}
    (h : ControlSequence.after? (c :: cs) = none) :
    withoutControlSequences (c :: cs) = c :: withoutControlSequences cs := by
  rw [withoutControlSequences]
  split <;> simp_all

/-- A text without an escape stays as it is. -/
theorem withoutControlSequences_of_not_mem {cs : List Char}
    (h : ControlSequence.escape ∉ cs) : withoutControlSequences cs = cs := by
  induction cs with
  | nil => simp [withoutControlSequences]
  | cons c cs ih =>
    rw [List.mem_cons, not_or] at h
    rw [withoutControlSequences_of_after?_eq_none
      (ControlSequence.after?_of_ne_escape (Ne.symm h.1) cs), ih h.2]

theorem plain_of_not_mem {s : String} (h : ControlSequence.escape ∉ s.toList) : plain s = s := by
  simp [plain, withoutControlSequences_of_not_mem h]

end HackFrontEnd.Text
