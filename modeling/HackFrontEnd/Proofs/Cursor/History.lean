import HackFrontEnd.Cursor.Session
import HackFrontEnd.Proofs.Instruction.Operands
import HackFrontEnd.Proofs.Machine

/-!
# What a session has done

A session is a state machine over one list of instructions. Its *history* lists the steps it was
asked for with the answers it gave, and settles everything about its cursor:

* `Session.Effect`, `Session.perform_effect`: the three things a step can do;
* `Session.FollowsFrom`: the invariant that ties a session to its history, with
  `FollowsFrom.effect` for a step and `followsFrom_after` for a run;
* `handedOut_append_pending`: nothing is lost, repeated or reordered, however the walks over the
  cursor are mixed;
* `current_settled_by_history`: the current instruction is never stale, and a step that fails
  changes nothing else.
-/

namespace HackFrontEnd.Cursor

/-! ## Histories -/

/-- The instructions that an answer to a step hands out. -/
def Step.handsOut : Step → Answer → List Instruction
  | .advance, .instruction i | .next _, .instruction i => [i]
  | .drain, .instructions is => is
  | _, _ => []

/-- Whether an answer to a step is that of an attempt to go on past the end. -/
def Step.overruns : Step → Answer → Bool
  | .advance, .failed _ => true
  | _, _ => false

/-- The steps of a session, each with its answer, in the order in which they were taken. -/
abbrev History := List (Step × Answer)

/-- The instructions handed out in the course of a history. -/
def History.handedOut (past : History) : List Instruction :=
  past.flatMap fun (step, answer) => step.handsOut answer

/-- Whether there was an attempt to go on past the end. -/
def History.overrun (past : History) : Bool :=
  past.any fun (step, answer) => step.overruns answer

/-- A further step adds what its answer hands out. -/
lemma History.handedOut_snoc (past : History) (step : Step) (answer : Answer) :
    handedOut (past ++ [(step, answer)]) = past.handedOut ++ step.handsOut answer := by
  simp [handedOut]

/-- A further step overruns the end, or one before it did. -/
lemma History.overrun_snoc (past : History) (step : Step) (answer : Answer) :
    overrun (past ++ [(step, answer)]) = (past.overrun || step.overruns answer) := by
  simp [overrun]

/-- Most steps hand out nothing. -/
lemma History.handedOut_snoc_of_nil {step : Step} {answer : Answer}
    (h : step.handsOut answer = []) (past : History) :
    handedOut (past ++ [(step, answer)]) = past.handedOut := by
  rw [handedOut_snoc, h, List.append_nil]

lemma History.overrun_snoc_of_false {step : Step} {answer : Answer}
    (h : step.overruns answer = false) (past : History) :
    overrun (past ++ [(step, answer)]) = past.overrun := by
  rw [overrun_snoc, h, Bool.or_false]

namespace Session

/-- The session after a list of steps. -/
def after (s : Session) (steps : List Step) : Session :=
  ((s.run steps).map Prod.snd).getLastD s

/-- The steps of a run with their answers. -/
def history (s : Session) (steps : List Step) : History :=
  steps.zip ((s.run steps).map Prod.fst)

lemma runs : Machine.Runs perform run :=
  ⟨fun _ => rfl, fun _ _ _ => rfl⟩

lemma after_cons (s : Session) (step : Step) (steps : List Step) :
    s.after (step :: steps) = (s.perform step).2.after steps :=
  runs.after_cons s step steps

lemma history_cons (s : Session) (step : Step) (steps : List Step) :
    s.history (step :: steps) =
      (step, (s.perform step).1) :: (s.perform step).2.history steps :=
  runs.history_cons s step steps

/-! ## Single steps -/

/-- At the end, going on fails and clears the current instruction. -/
lemma perform_advance_nil {s : Session} (hp : s.cursor.pending = []) :
    s.perform .advance =
      (.failed (.diagnostic { fault := .noMoreInstructions }),
        { s with cursor := { s.cursor with current := none } }) := by
  simp [perform, Cursor.advance, Cursor.next?, hp]

/-- Before the end, going on hands out the next instruction. -/
lemma perform_advance_cons {s : Session} {i : Instruction} {rest : List Instruction}
    (hp : s.cursor.pending = i :: rest) :
    s.perform .advance =
      (.instruction i,
        s.handOut [i] { s.cursor with pending := rest, current := some i }) := by
  simp [perform, Cursor.advance, Cursor.next?, hp]

/-- A walk that finished, or was never started, stops and changes nothing. -/
lemma perform_next_idle {s : Session} {walk : Nat} (hw : s.walks[walk]? ≠ some .active) :
    s.perform (.next walk) = (.stopped, s) := by
  rw [perform, stepWalk]
  split
  · contradiction
  · rfl

/-- At the end, a walk stops and is finished by that. -/
lemma perform_next_nil {s : Session} {walk : Nat} (hw : s.walks[walk]? = some .active)
    (hp : s.cursor.pending = []) :
    s.perform (.next walk) = (.stopped, { s with walks := s.walks.set walk .finished }) := by
  simp [perform, stepWalk, hw, Cursor.next?, hp]

/-- Before the end, a walk hands out what going on would. -/
lemma perform_next_cons {s : Session} {walk : Nat} {i : Instruction} {rest : List Instruction}
    (hw : s.walks[walk]? = some .active) (hp : s.cursor.pending = i :: rest) :
    s.perform (.next walk) =
      (.instruction i,
        s.handOut [i] { s.cursor with pending := rest, current := some i }) := by
  simp [perform, stepWalk, hw, Cursor.next?, hp]

/-- At the end there is nothing left to walk over. -/
lemma perform_drain_nil {s : Session} (hp : s.cursor.pending = []) :
    s.perform .drain = (.instructions [], s) := by
  have hnone : s.cursor.next? = none := by rw [Cursor.next?, hp]
  rw [perform, Cursor.drain_of_next?_eq_none hnone]
  simp [handOut]

/-- Before the end, the last instruction that is handed out becomes the current one. -/
lemma perform_drain_cons {s : Session} {i : Instruction} {is : List Instruction}
    (hp : s.cursor.pending = i :: is) :
    s.perform .drain =
      (.instructions (i :: is), s.handOut (i :: is)
        { s.cursor with pending := [], current := (i :: is).getLast? }) := by
  simp [perform, Cursor.drain, hp, List.getLast?_cons]

/-! ## The effect of a step -/

/-- What a step does to a session, told by its answer. -/
inductive Effect (s : Session) (step : Step) (answer : Answer) : Session → Prop
  /-- The next instructions are handed out, and the last of them becomes the current one. -/
  | handOut {i : Instruction} {is rest : List Instruction}
      (answered : step.handsOut answer = i :: is) (followed : step.overruns answer = false)
      (pending : s.cursor.pending = i :: is ++ rest) :
      Effect s step answer
        (s.handOut (i :: is)
          { s.cursor with pending := rest, current := (i :: is).getLast? })
  /-- There is nothing to go on to, and the current instruction is cleared. -/
  | overrun (answered : step.handsOut answer = []) (overran : step.overruns answer = true)
      (pending : s.cursor.pending = []) :
      Effect s step answer { s with cursor := { s.cursor with current := none } }
  /-- The cursor stays as it is. A walk may start, and one at the end may finish. -/
  | keep {walks : List Walk}
      (answered : step.handsOut answer = []) (followed : step.overruns answer = false)
      (finished : .finished ∈ walks → .finished ∈ s.walks ∨ s.cursor.pending = []) :
      Effect s step answer { s with walks }

/-- Going on hands out an instruction or overruns the end. -/
lemma effect_advance (s : Session) :
    Effect s .advance (s.perform .advance).1 (s.perform .advance).2 := by
  cases hp : s.cursor.pending with
  | nil =>
    rw [perform_advance_nil hp]
    exact .overrun rfl rfl hp
  | cons i rest =>
    rw [perform_advance_cons hp]
    exact .handOut rfl rfl (show s.cursor.pending = [i] ++ rest from hp)

/-- A step of a walk hands out an instruction or keeps the cursor, whatever becomes of the walk. -/
lemma effect_next (s : Session) (walk : Nat) :
    Effect s (.next walk) (s.perform (.next walk)).1 (s.perform (.next walk)).2 := by
  by_cases hw : s.walks[walk]? = some .active
  · cases hp : s.cursor.pending with
    | nil =>
      rw [perform_next_nil hw hp]
      exact .keep rfl rfl fun _ => .inr hp
    | cons i rest =>
      rw [perform_next_cons hw hp]
      exact .handOut rfl rfl (show s.cursor.pending = [i] ++ rest from hp)
  · rw [perform_next_idle hw]
    exact .keep rfl rfl .inl

/-- Walking to the end hands out what is left, if that is anything. -/
lemma effect_drain (s : Session) :
    Effect s .drain (s.perform .drain).1 (s.perform .drain).2 := by
  cases hp : s.cursor.pending with
  | nil =>
    rw [perform_drain_nil hp]
    exact .keep rfl rfl .inl
  | cons i is =>
    rw [perform_drain_cons hp]
    exact .handOut rfl rfl (by rw [hp, List.append_nil])

/-- Every step has one of the three effects. -/
theorem perform_effect (s : Session) (step : Step) :
    Effect s step (s.perform step).1 (s.perform step).2 := by
  cases step with
  | advance => exact effect_advance s
  | next walk => exact effect_next s walk
  | drain => exact effect_drain s
  | walk => exact .keep rfl rfl fun h => .inl (by simpa using h)
  | hasMore | kind | arg1 | arg2 | current | remaining | seen => exact .keep rfl rfl .inl

/-! ## The invariant -/

/-- What ties a session over some instructions to its history. The history alone settles what was
handed out and what is current; a walk that finished, or an attempt to go on past the end, shows
that nothing is to come. -/
structure FollowsFrom (all : List Instruction) (past : History) (s : Session) : Prop where
  handedOut : s.handedOut = past.handedOut
  split : past.handedOut ++ s.cursor.pending = all
  pending_of_finished : .finished ∈ s.walks → s.cursor.pending = []
  pending_of_overrun : past.overrun = true → s.cursor.pending = []
  current : s.cursor.current = if past.overrun then none else past.handedOut.getLast?

variable {all : List Instruction} {past : History} {s t : Session} {step : Step} {answer : Answer}

/-- Whatever effect a step has, the session still follows from its history: this is the step that
carries the invariant through a run. -/
lemma FollowsFrom.effect (h : FollowsFrom all past s) (e : Effect s step answer t) :
    FollowsFrom all (past ++ [(step, answer)]) t := by
  cases e with
  | @handOut i is rest answered followed pending =>
    have hne : s.cursor.pending ≠ [] := by rw [pending]; exact List.cons_ne_nil _ _
    -- something was still to come, so there was no attempt to go on past the end
    have hpast : past.overrun = false :=
      Bool.eq_false_iff.mpr fun hover => hne (h.pending_of_overrun hover)
    have hover : History.overrun (past ++ [(step, answer)]) = false := by
      rw [History.overrun_snoc_of_false followed, hpast]
    refine ⟨?_, ?_, fun hfin => absurd (h.pending_of_finished hfin) hne, ?_, ?_⟩
    · rw [History.handedOut_snoc, answered, ← h.handedOut]
      rfl
    · rw [History.handedOut_snoc, answered, List.append_assoc, ← h.split, pending]
      rfl
    · rw [hover]
      exact fun hc => absurd hc Bool.false_ne_true
    · rw [hover, History.handedOut_snoc, answered, List.getLast?_append]
      simp [Session.handOut, List.getLast?_cons]
  | overrun answered overran pending =>
    have hover : History.overrun (past ++ [(step, answer)]) = true := by
      rw [History.overrun_snoc, overran, Bool.or_true]
    have hout := History.handedOut_snoc_of_nil answered past
    refine ⟨?_, ?_, h.pending_of_finished, fun _ => pending, ?_⟩
    · rw [hout]
      exact h.handedOut
    · rw [hout]
      exact h.split
    · rw [if_pos hover]
  -- nothing was handed out, so only the walks may differ
  | keep answered followed finished =>
    have hover := History.overrun_snoc_of_false followed past
    have hout := History.handedOut_snoc_of_nil answered past
    refine ⟨?_, ?_, fun hfin => (finished hfin).elim h.pending_of_finished id, ?_, ?_⟩
    · rw [hout]
      exact h.handedOut
    · rw [hout]
      exact h.split
    · rw [hover]
      exact h.pending_of_overrun
    · rw [hover, hout]
      exact h.current

/-- A session follows from its history at every point of every run. -/
theorem followsFrom_after (h : FollowsFrom all [] s) (steps : List Step) :
    FollowsFrom all (s.history steps) (s.after steps) :=
  runs.invariant h (fun _ t step ht => ht.effect (perform_effect t step)) steps

/-- A session that has done nothing yet follows from the empty history. -/
lemma followsFrom_ofSource (marker filename source : String) :
    FollowsFrom (Source.instructions marker filename source) []
      (ofSource marker filename source) where
  handedOut := rfl
  split := rfl
  pending_of_finished := fun h => absurd h List.not_mem_nil
  pending_of_overrun := fun h => absurd h Bool.false_ne_true
  current := rfl

/-- What is current was handed out. -/
lemma FollowsFrom.current_mem (h : FollowsFrom all past s) {i : Instruction}
    (hi : s.cursor.current = some i) : i ∈ s.handedOut := by
  rw [h.current] at hi
  split at hi
  · contradiction
  · rw [h.handedOut]
    exact List.mem_of_getLast? hi

/-- Only instructions of the source are handed out. -/
lemma FollowsFrom.mem_of_mem_handedOut (h : FollowsFrom all past s) {i : Instruction}
    (hi : i ∈ s.handedOut) : i ∈ all := by
  rw [← h.split, ← h.handedOut]
  exact List.mem_append_left _ hi

/-! ## Nothing is lost, repeated or reordered -/

lemma remaining_eq_zero_iff : s.cursor.remaining = 0 ↔ s.cursor.pending = [] :=
  List.length_eq_zero_iff

/-- There is more if the number of instructions to come says so. -/
lemma hasMore_answer (s : Session) :
    (s.perform .hasMore).1 = .flag (decide (0 < s.cursor.remaining)) := by
  cases hp : s.cursor.pending <;> simp [perform, Cursor.hasMore, Cursor.remaining, hp]

/-- Going on is a misuse exactly at the end. -/
lemma advance_misuse_iff (s : Session) :
    (∃ d, (s.perform .advance).1 = .failed (.diagnostic d) ∧ d.fault.family = .cursorState) ↔
      s.cursor.remaining = 0 := by
  rw [remaining_eq_zero_iff]
  cases hp : s.cursor.pending with
  | nil => simp [perform_advance_nil hp, Fault.family]
  | cons i rest => simp [perform_advance_cons hp]

/-- Going on finds an instruction exactly before the end. -/
lemma advance_succeeds_iff (s : Session) :
    (∃ i, (s.perform .advance).1 = .instruction i) ↔ 0 < s.cursor.remaining := by
  rw [Nat.pos_iff_ne_zero, ne_eq, remaining_eq_zero_iff]
  cases hp : s.cursor.pending with
  | nil => simp [perform_advance_nil hp]
  | cons i rest => simp [perform_advance_cons hp]

/-- A walk that was started stops exactly at the end, whether it is the first to get there or
not. -/
lemma FollowsFrom.next_stops_iff (h : FollowsFrom all past s) (walk : Fin s.walks.length) :
    (s.perform (.next walk)).1 = .stopped ↔ s.cursor.remaining = 0 := by
  rw [remaining_eq_zero_iff]
  cases hw : s.walks[walk] with
  | finished =>
    -- a finished walk stops whatever is to come, but there was nothing to come when it finished
    have hne : s.walks[walk.val]? ≠ some .active := by
      simp [show s.walks[walk.val] = .finished from hw]
    rw [perform_next_idle hne]
    exact iff_of_true rfl (h.pending_of_finished (hw ▸ List.getElem_mem walk.isLt))
  | active =>
    have hsome : s.walks[walk.val]? = some .active := by
      simp [show s.walks[walk.val] = .active from hw]
    cases hp : s.cursor.pending with
    | nil => simp [perform_next_nil hsome hp]
    | cons i rest => simp [perform_next_cons hsome hp]

/-- A step of a walk never fails. -/
lemma next_ne_failed (s : Session) (walk : Nat) (e : ReadError) :
    (s.perform (.next walk)).1 ≠ .failed e := by
  by_cases hw : s.walks[walk]? = some .active
  · cases hp : s.cursor.pending with
    | nil => simp [perform_next_nil hw hp]
    | cons i rest => simp [perform_next_cons hw hp]
  · simp [perform_next_idle hw]

/-- Walking to the end answers with all that is still to come. -/
lemma drain_answer (s : Session) :
    (s.perform .drain).1 = .instructions s.cursor.pending := by
  cases hp : s.cursor.pending with
  | nil => rw [perform_drain_nil hp]
  | cons i rest => rw [perform_drain_cons hp]

/-- However many walks share a cursor and in whatever order steps are taken, the instructions handed
out so far, followed by those still to come, are those of the cleaned source. So the number still to
come settles which steps find an instruction, and walking to the end hands out what was not yet
handed out. -/
theorem handedOut_append_pending (marker filename source : String) (steps : List Step) :
    let start := ofSource marker filename source
    let past := start.history steps
    let s := start.after steps
    let all := (Source.clean marker source).map fun (line, text) =>
      (⟨text, line, filename⟩ : Instruction)
    past.handedOut ++ s.cursor.pending = all ∧
      past.handedOut.length + s.cursor.remaining = all.length ∧
      (s.perform .remaining).1 = .number s.cursor.remaining ∧
      (s.perform .hasMore).1 = .flag (decide (0 < s.cursor.remaining)) ∧
      ((∃ d, (s.perform .advance).1 = .failed (.diagnostic d) ∧ d.fault.family = .cursorState) ↔
        s.cursor.remaining = 0) ∧
      ((∃ i, (s.perform .advance).1 = .instruction i) ↔ 0 < s.cursor.remaining) ∧
      (∀ walk : Fin s.walks.length,
        (s.perform (.next walk)).1 = .stopped ↔ s.cursor.remaining = 0) ∧
      (∀ walk e, (s.perform (.next walk)).1 ≠ .failed e) ∧
      (∀ e, (s.perform .drain).1 ≠ .failed e) ∧
      (s.perform .drain).1 = .instructions s.cursor.pending ∧
      past.handedOut ++ s.cursor.drain.1 = all := by
  intro start past s all
  have h : FollowsFrom all past s :=
    followsFrom_after (followsFrom_ofSource marker filename source) steps
  have hdrain : (s.perform .drain).1 = .instructions s.cursor.pending := drain_answer s
  refine ⟨h.split, ?_, rfl, hasMore_answer s, advance_misuse_iff s, advance_succeeds_iff s,
    h.next_stops_iff, next_ne_failed s, fun e => ?_, hdrain, h.split⟩
  · have hlen := congrArg List.length h.split
    rwa [List.length_append] at hlen
  · rw [hdrain]
    exact Answer.noConfusion

/-! ## The current instruction is never stale -/

/-- The step that asks a question about the current instruction. -/
def ask : Accessor → Step
  | .kind => .kind
  | .arg1 => .arg1
  | .arg2 => .arg2

/-- What an instruction itself answers to a question. -/
def answerOf (i : Instruction) : Accessor → Answer
  | .kind => .ofExcept .kind i.kind
  | .arg1 => .ofExcept .text i.arg1
  | .arg2 => .ofExcept .number i.arg2

/-- A question is put to the current instruction. -/
lemma ask_of_current {i : Instruction} (hc : s.cursor.current = some i) (question : Accessor) :
    (s.perform (ask question)).1 = answerOf i question := by
  cases question with
  | kind => rw [ask, perform, Cursor.kind, Cursor.require, hc]; rfl
  | arg1 => rw [ask, perform, Cursor.arg1, Cursor.require, hc]; rfl
  | arg2 => rw [ask, perform, Cursor.arg2, Cursor.require, hc]; rfl

/-- Without a current instruction, every question fails in the same way. -/
lemma ask_of_no_current (hc : s.cursor.current = none) (question : Accessor) :
    (s.perform (ask question)).1 =
      .failed (.diagnostic { fault := .noCurrentInstruction question }) := by
  cases question with
  | kind => rw [ask, perform, Cursor.kind, Cursor.require, hc]; rfl
  | arg1 => rw [ask, perform, Cursor.arg1, Cursor.require, hc]; rfl
  | arg2 => rw [ask, perform, Cursor.arg2, Cursor.require, hc]; rfl

/-- An answer fails only for the failure that it was made from. -/
lemma failed_of_ofExcept {α : Type} {f : α → Answer} {x : Except ReadError α} {e : ReadError}
    (hf : ∀ a, f a ≠ .failed e) (h : Answer.ofExcept f x = .failed e) : x = .error e := by
  cases x with
  | ok a => exact absurd h (hf a)
  | error e' => exact congrArg Except.error (Answer.failed.inj h)

/-- No answer of an instruction says that there is none. -/
lemma answerOf_ne_noCurrent {i : Instruction} {question : Accessor} {d : Diagnostic}
    (h : answerOf i question = .failed (.diagnostic d)) : d.fault.family ≠ .noCurrent := by
  -- a fault of the instruction itself is of one of two families, and neither is the one in question
  have key : ∃ f, ReadError.diagnostic d = i.faulty f ∧
      (f.family = .malformed ∨ f.family = .operandAccess) := by
    cases question with
    | kind =>
      obtain ⟨f, hf, hfam⟩ :=
        Instruction.kind_failure (failed_of_ofExcept (fun _ => Answer.noConfusion) h)
      exact ⟨f, hf, .inl hfam⟩
    | arg1 => exact Instruction.arg1_failure (failed_of_ofExcept (fun _ => Answer.noConfusion) h)
    | arg2 =>
      rcases Instruction.arg2_failure (failed_of_ofExcept (fun _ => Answer.noConfusion) h) with
        hf | ⟨digits, hd⟩
      · exact hf
      · contradiction
  obtain ⟨f, hf, hfam⟩ := key
  have hfault : d.fault = f := by
    rw [ReadError.diagnostic.inj hf]
  rw [hfault]
  rcases hfam with hfam | hfam <;> rw [hfam] <;> decide

/-- A question is a misuse exactly if nothing is current. -/
lemma ask_misuse_iff (s : Session) (question : Accessor) :
    (∃ d, (s.perform (ask question)).1 = .failed (.diagnostic d) ∧
      d.fault.family = .noCurrent) ↔ s.cursor.current = none := by
  constructor
  · rintro ⟨d, hd, hfam⟩
    cases hc : s.cursor.current with
    | none => rfl
    | some i =>
      rw [ask_of_current hc] at hd
      exact absurd hfam (answerOf_ne_noCurrent hd)
  · intro hc
    exact ⟨_, ask_of_no_current hc question, rfl⟩

/-- A step that hands out nothing leaves the cursor alone, save that an attempt to go on past the
end clears the current instruction. -/
lemma Effect.frame (e : Effect s step answer t) (hout : step.handsOut answer = []) :
    if step.overruns answer then t = { s with cursor := { s.cursor with current := none } }
    else t.cursor = s.cursor := by
  cases e with
  | handOut answered =>
    rw [answered] at hout
    contradiction
  | overrun _ overran => rw [if_pos overran]
  | keep _ followed => rw [followed, if_neg Bool.false_ne_true]

/-- The history of a session settles its current instruction: nothing is current after an attempt to
go on past the end, and otherwise the last instruction that was handed out is, whichever walk or
step it went to. Questions are answered by that instruction, and only steps that hand out
instructions or overrun the end touch the cursor. -/
theorem current_settled_by_history (marker filename source : String) (steps : List Step) :
    let start := ofSource marker filename source
    let past := start.history steps
    let s := start.after steps
    s.cursor.current = (if past.overrun then none else past.handedOut.getLast?) ∧
      (∀ question,
        ((∃ d, (s.perform (ask question)).1 = .failed (.diagnostic d) ∧
          d.fault.family = .noCurrent) ↔ s.cursor.current = none) ∧
        ∀ i, s.cursor.current = some i → (s.perform (ask question)).1 = answerOf i question) ∧
      ∀ step, step.handsOut (s.perform step).1 = [] →
        if step.overruns (s.perform step).1 then
          (s.perform step).2 = { s with cursor := { s.cursor with current := none } }
        else (s.perform step).2.cursor = s.cursor := by
  intro start past s
  have h : FollowsFrom (Source.instructions marker filename source) past s :=
    followsFrom_after (followsFrom_ofSource marker filename source) steps
  refine ⟨h.current, fun question => ⟨ask_misuse_iff s question, fun i hi => ?_⟩,
    fun step hout => (perform_effect s step).frame hout⟩
  exact ask_of_current hi question

end Session

end HackFrontEnd.Cursor
