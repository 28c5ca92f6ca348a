import HackFrontEnd.Cursor.Basic

/-!
# Sessions with a cursor

Any number of walks share one cursor, and a session carries out steps on all of them in any order.
It remembers what was handed out, so that earlier instructions can be asked about again.

A walk that has reached the end once is finished and never hands out an instruction again.
-/

namespace HackFrontEnd.Cursor

/-- Whether a walk may still hand out an instruction. -/
inductive Walk
  | active
  | finished
deriving DecidableEq, Repr

/-- A cursor, the walks over it in the order in which they were started, and the instructions handed
out so far in the order in which they were. -/
structure Session where
  cursor : Cursor
  walks : List Walk := []
  handedOut : List Instruction := []
deriving DecidableEq, Repr

/-- What a session can be asked for. -/
inductive Step
  | hasMore
  | advance
  | kind
  | arg1
  | arg2
  | current
  | remaining
  /-- Start a walk. -/
  | walk
  /-- Take the next step of a walk. -/
  | next (walk : Nat)
  /-- Walk to the end. -/
  | drain
  /-- Look at an instruction that was handed out. -/
  | seen (index : Nat)
deriving DecidableEq, Repr

/-- What a session answers. -/
inductive Answer
  | flag (holds : Bool)
  | instruction (i : Instruction)
  | nothing
  | kind (k : Kind)
  | text (s : String)
  | number (n : Nat)
  /-- The number of a walk that was started. -/
  | started (walk : Nat)
  /-- The walk is at its end. -/
  | stopped
  | instructions (is : List Instruction)
  /-- An instruction that was handed out earlier. -/
  | detail (i : Instruction)
  | failed (e : ReadError)
deriving DecidableEq, Repr

/-- The answer to a question that may fail. -/
def Answer.ofExcept {α : Type} (answer : α → Answer) : Except ReadError α → Answer
  | .ok a => answer a
  | .error e => .failed e

namespace Session

/-- A session before the first instruction of a source. -/
def ofSource (marker filename source : String) : Session :=
  { cursor := .ofSource marker filename source }

/-- The session after a cursor has handed out instructions. -/
def handOut (s : Session) (is : List Instruction) (c : Cursor) : Session :=
  { s with cursor := c, handedOut := s.handedOut ++ is }

/-- One step of a walk: a finished walk stops, and so does one that finds nothing to hand out. -/
def stepWalk (s : Session) (walk : Nat) : Answer × Session :=
  match s.walks[walk]? with
  | some .active =>
    -- an end leaves the cursor alone, so the current instruction stays
    match s.cursor.next? with
    | some (i, c) => (.instruction i, s.handOut [i] c)
    | none => (.stopped, { s with walks := s.walks.set walk .finished })
  | _ => (.stopped, s)

/-- The answer to a step, and the session after it. -/
def perform (s : Session) : Step → Answer × Session
  | .hasMore => (.flag s.cursor.hasMore, s)
  | .advance =>
    match s.cursor.advance with
    | (.ok i, c) => (.instruction i, s.handOut [i] c)
    | (.error e, c) => (.failed e, { s with cursor := c })
  | .kind => (.ofExcept .kind s.cursor.kind, s)
  | .arg1 => (.ofExcept .text s.cursor.arg1, s)
  | .arg2 => (.ofExcept .number s.cursor.arg2, s)
  | .current => (s.cursor.current.elim .nothing .instruction, s)
  | .remaining => (.number s.cursor.remaining, s)
  | .walk => (.started s.walks.length, { s with walks := s.walks ++ [.active] })
  | .next walk => s.stepWalk walk
  | .drain =>
    let (is, c) := s.cursor.drain
    (.instructions is, s.handOut is c)
  | .seen index => (s.handedOut[index]?.elim .nothing .detail, s)

/-- The answers to a list of steps, each with the session after it. -/
def run (s : Session) : List Step → List (Answer × Session)
  | [] => []
  | step :: steps =>
    let (answer, s) := s.perform step
    (answer, s) :: s.run steps

end Session

end HackFrontEnd.Cursor
