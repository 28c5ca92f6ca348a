import HackFrontEnd.Proofs.Cursor.History
import HackFrontEnd.Proofs.Source.Layout

/-!
# What a session lets out

The errors that come of asking a session, or an instruction that it handed out, for something they
do not have. All but one of them are reports of this library, told apart by their families:

* `Instruction.reported_iff`: everything an instruction lets out is a report, unless its numeral
  has too many digits to be read;
* `Session.reported_iff_not_overlong`: so it is with a session, after any run;
* `Session.not_reported_of_zeros`: a long row of zeros is let out as an error of another kind.
-/

namespace HackFrontEnd

open Text

/-! ## Reports -/

/-- The error reports a fault of an instruction or of the use of a cursor, and so a fault that this
library reports. -/
def ReadError.IsParse (e : ReadError) : Prop :=
  ∃ d, e = .diagnostic d ∧ d.fault.family.within .parse = true ∧
    d.fault.family.within .frontEnd = true

/-- A diagnostic whose family lies within that of parsing is a report: that family lies within the
widest one. -/
lemma ReadError.isParse_of_within {d : Diagnostic} (h : d.fault.family.within .parse = true) :
    (ReadError.diagnostic d).IsParse :=
  ⟨d, rfl, h, Family.within_trans h (by decide)⟩

namespace Instruction

variable {i : Instruction} {e : ReadError}

/-- A fault of an instruction is a report, whichever operand it is about. -/
lemma isParse_faulty {f : Fault} (h : f.family = .malformed ∨ f.family = .operandAccess) :
    (i.faulty f).IsParse := by
  apply ReadError.isParse_of_within
  rcases h with h | h
  · show f.family.within .parse = true
    rw [h]
    decide
  · show f.family.within .parse = true
    rw [h]
    decide

/-- Whatever the instruction lets out is a report. The second operand is moreover the number that
the third word denotes, or the instruction is malformed or has no such operand. -/
structure Reported (i : Instruction) : Prop where
  kind : ∀ e, i.kind = .error e → e.IsParse
  arg1 : ∀ e, i.arg1 = .error e → e.IsParse
  arg2 : (∃ n keyword name, i.arg2 = .ok n ∧ Says i.words (.number keyword name n)) ∨
    ∃ d, i.arg2 = .error (.diagnostic d) ∧
      (d.fault.family = .malformed ∨ d.fault.family = .operandAccess)
  hasArg2 : ∀ e, i.hasArg2 = .error e → e.IsParse
  describe : ∀ e, i.describe = .error e → e.IsParse

lemma isParse_of_kind (h : i.kind = .error e) : e.IsParse := by
  obtain ⟨f, rfl, hfam⟩ := kind_failure h
  exact isParse_faulty (.inl hfam)

lemma isParse_of_arg1 (h : i.arg1 = .error e) : e.IsParse := by
  obtain ⟨f, rfl, hfam⟩ := arg1_failure h
  exact isParse_faulty hfam

/-- What the question for a second operand lets out is a report, since it is that of the kind. -/
lemma isParse_of_hasArg2 (h : i.hasArg2 = .error e) : e.IsParse :=
  isParse_of_kind (hasArg2_eq_error_iff.mp h)

/-- All reports, unless the numeral is too long. -/
theorem reported_iff : i.Reported ↔ ∀ n, ¬Overlong i.words n := by
  constructor
  -- a numeral that is too long leaves neither of the outcomes that are allowed for the second
  -- operand
  · intro h n hlong
    rcases h.arg2 with ⟨m, _, _, hm, _⟩ | ⟨d, hd, _⟩
    · rw [arg2_of_overlong hlong] at hm
      contradiction
    · rw [arg2_of_overlong hlong] at hd
      cases hd
  · intro h
    refine ⟨fun e => isParse_of_kind, fun e => isParse_of_arg1, ?_, fun e => isParse_of_hasArg2,
      fun e he => ?_⟩
    · rcases i.arg2_cases with ⟨keyword, name, n, hsays⟩ | ⟨n, hlong⟩ | ⟨f, hf, hfam⟩
      · exact .inl ⟨n, keyword, name, arg2_of_statement hsays, hsays⟩
      · exact absurd hlong (h n)
      · exact .inr ⟨_, hf, hfam⟩
    · rcases describe_failure he with ⟨n, rfl⟩ | ⟨f, rfl, hfam⟩
      · exact absurd (describe_eq_numeralTooLong_iff.mp he) (h n)
      · exact isParse_faulty (.inl hfam)

end Instruction

/-! ## Sessions -/

namespace Cursor.Session

/-- Whatever the session and the instructions it handed out let out is a report. -/
structure Reported (s : Session) : Prop where
  answers : ∀ question e, (s.perform (ask question)).1 = .failed e → e.IsParse
  instructions : ∀ i ∈ s.handedOut, i.Reported

/-- The session answers with the reports of its current instruction, and with one of its own if
nothing is current. -/
lemma isParse_of_ask {s : Session} (hcurrent : ∀ i, s.cursor.current = some i → i.Reported)
    {question : Accessor} {e : ReadError} (h : (s.perform (ask question)).1 = .failed e) :
    e.IsParse := by
  cases hc : s.cursor.current with
  | none =>
    rw [ask_of_no_current hc] at h
    rw [← Answer.failed.inj h]
    exact ReadError.isParse_of_within (show Family.within .noCurrent .parse = true by decide)
  | some i =>
    have hi := hcurrent i hc
    rw [ask_of_current hc] at h
    cases question with
    | kind => exact hi.kind e (failed_of_ofExcept (fun _ => Answer.noConfusion) h)
    | arg1 => exact hi.arg1 e (failed_of_ofExcept (fun _ => Answer.noConfusion) h)
    | arg2 =>
      have herror : i.arg2 = .error e := failed_of_ofExcept (fun _ => Answer.noConfusion) h
      rcases hi.arg2 with ⟨n, _, _, hn, _⟩ | ⟨d, hd, hfam⟩
      · rw [hn] at herror
        contradiction
      · rw [hd] at herror
        rw [← Except.error.inj herror]
        apply ReadError.isParse_of_within
        rcases hfam with hfam | hfam <;> rw [hfam] <;> decide

/-- After any run over any source, all that a session and the instructions it handed out let out are
reports, exactly if none of these instructions has a numeral with more digits than are read. -/
theorem reported_iff_not_overlong (marker filename source : String) (steps : List Step) :
    let s := (ofSource marker filename source).after steps
    s.Reported ↔ ∀ i ∈ s.handedOut, ∀ n, ¬Overlong i.words n := by
  intro s
  have hfollows : FollowsFrom (Source.instructions marker filename source)
      ((ofSource marker filename source).history steps) s :=
    followsFrom_after (followsFrom_ofSource marker filename source) steps
  constructor
  · intro h i hi
    exact Instruction.reported_iff.mp (h.instructions i hi)
  · intro h
    have hreported : ∀ i ∈ s.handedOut, i.Reported := by
      intro i hi
      exact Instruction.reported_iff.mpr (h i hi)
    refine ⟨fun question e he => isParse_of_ask (fun i hi => ?_) he, hreported⟩
    exact hreported i (hfollows.current_mem hi)

/-! ## A numeral that is too long -/

/-- A text without blanks, as a word. -/
def wordOf (s : String) (hne : s.toList ≠ []) (h : s.toList.all (!isBlank ·) = true) : Word where
  chars := s.toList
  ne_nil := hne
  not_isBlank := by
    intro c hc
    simpa using List.all_eq_true.mp h c hc

/-- One space between two words. -/
def space : Layout.Break where
  chars := [' ']
  isBlank := by
    intro c hc
    rw [List.mem_singleton.mp hc]
    decide
  newline_not_mem := by decide
  ne_nil := List.cons_ne_nil _ _

/-- The words of an instruction that pushes a constant. -/
def pushed (numeral : Word) : Word × List (Layout.Break × Word) :=
  (wordOf "push" (by decide) (by decide),
    [(space, wordOf "constant" (by decide) (by decide)), (space, numeral)])

/-- The text of an instruction that pushes a constant is its three words with single spaces. -/
lemma text_pushed (numeral : Word) :
    "push constant " ++ numeral.text =
      String.ofList (Layout.spaced (pushed numeral).1 (pushed numeral).2) := by
  rw [← String.toList_inj, String.toList_append, Word.text]
  simp only [String.toList_ofList]
  rfl

/-- The session at the only instruction of a source, which pushes a constant. -/
lemma after_advance_pushed (numeral : Word) :
    let i : Instruction := ⟨"push constant " ++ numeral.text, 1, Location.unnamed⟩
    (ofSource Source.defaultMarker Location.unnamed i.text).after [.advance] =
        handOut (ofSource Source.defaultMarker Location.unnamed i.text) [i]
          { filename := Location.unnamed, current := some i } ∧
      i.words = ["push", "constant", numeral.text] := by
  intro i
  have htext : i.text = String.ofList (Layout.spaced (pushed numeral).1 (pushed numeral).2) :=
    text_pushed numeral
  have hpending :
      (ofSource Source.defaultMarker Location.unnamed i.text).cursor.pending = [i] := by
    -- the text is a line with words in it that is no comment, so cleaning keeps it as it is
    show Source.instructions _ _ i.text = [⟨i.text, 1, Location.unnamed⟩]
    rw [htext]
    exact Layout.instructions_spaced (by simp [pushed, wordOf]) _ _
  constructor
  · rw [after_cons, perform_advance_cons hpending]
    rfl
  · rw [Instruction.words, htext, String.toList_ofList, Layout.words_spaced]
    rfl

/-- A numeral of zeros, one more of them than are read. -/
def zeros : Word where
  chars := List.replicate 4301 '0'
  ne_nil := List.cons_ne_nil _ _
  not_isBlank := by
    intro c hc
    rw [List.eq_of_mem_replicate hc]
    decide

lemma isNumeral_zeros : Decimal.IsNumeral zeros.text.toList zeros.chars where
  signed := .inl String.toList_ofList
  ne_nil := zeros.ne_nil
  isDigit := by
    intro c hc
    rw [List.eq_of_mem_replicate hc]
    decide

lemma length_zeros : zeros.chars.length = 4301 := List.length_replicate

/-- An instruction that pushes zero lets out an error that is no report, if zero is written with too
many digits. -/
theorem not_reported_of_zeros :
    let i : Instruction := ⟨"push constant " ++ zeros.text, 1, Location.unnamed⟩
    let s := (ofSource Source.defaultMarker Location.unnamed i.text).after [.advance]
    s.handedOut = [i] ∧ Decimal.value zeros.chars = 0 ∧
      (s.perform .arg2).1 = .failed (.numeralTooLong 4301) ∧ ¬s.Reported := by
  intro i s
  obtain ⟨hafter, hwords⟩ := after_advance_pushed zeros
  have hlong : Overlong i.words 4301 := by
    rw [hwords, ← length_zeros]
    exact .number .push (wordOf "constant" (by decide) (by decide)) [] isNumeral_zeros
      (by rw [length_zeros]; decide)
  have hout : s.handedOut = [i] := by
    rw [show s = _ from hafter]
    rfl
  -- neither the value nor the answer is found by evaluation: there are too many digits for that
  refine ⟨hout, ?_, ?_, fun h => ?_⟩
  · rw [show zeros.chars = List.replicate 4301 '0' ++ [] from (List.append_nil _).symm,
      Decimal.value_zeros_append]
    rfl
  · rw [show s = _ from hafter]
    have hanswer := ask_of_current (s := handOut (ofSource Source.defaultMarker
      Location.unnamed i.text) [i] { filename := Location.unnamed, current := some i }) rfl .arg2
    rw [answerOf, Instruction.arg2_of_overlong hlong] at hanswer
    exact hanswer
  · have hi : i.Reported := h.instructions i (by rw [hout]; exact List.mem_cons_self)
    exact Instruction.reported_iff.mp hi 4301 hlong

end Cursor.Session

end HackFrontEnd
