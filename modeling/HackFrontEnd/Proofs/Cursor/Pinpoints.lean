import HackFrontEnd.Proofs.Cursor.History
import HackFrontEnd.Proofs.Instruction.Wording
import HackFrontEnd.Proofs.Source.Cleaning

/-!
# Where reports point

A report about an instruction that a session handed out leads back to the source: its location is
that of the line that the instruction stands on, and the report shows this line.

* `Pinpoints`: what a report tells about a line of a source, and on which lines of its own;
* `Cursor.Session.pinpoints_of_failed`: every report about an instruction does so, after any run
  over any source.
-/

namespace HackFrontEnd

open Text

/-- The report is about this instruction, which stands on the line of the source with this number.
It gives the location and the detail on one line, the text of the instruction on a second, and the
hint, if there is one, on a third. It has no other lines. -/
structure Pinpoints (filename source : String) (i : Instruction) (n : Nat) (d : Diagnostic) :
    Prop where
  exists_line : ∃ line, (lines source.toList)[n - 1]? = some line ∧ i.text.toList = trim line
  pos : 1 ≤ n
  location : d.location = some ⟨filename, n⟩
  sourceLine : d.sourceLine = some i.text
  lines_message : lines d.message.toList =
    ((filename ++ ":" ++ Decimal.ofNat n ++ ": error: " ++ d.fault.detail) :: ("    " ++ i.text) ::
      (d.fault.hint.map ("hint: " ++ ·)).toList).map String.toList

namespace Instruction

variable {i : Instruction} {d : Diagnostic} {marker filename source : String}

/-- Asking the instruction for its kind or its operands brings out the error. -/
inductive LetsOut (i : Instruction) (e : ReadError) : Prop
  | kind (failed : i.kind = .error e)
  | arg1 (failed : i.arg1 = .error e)
  | arg2 (failed : i.arg2 = .error e)
  | hasArg2 (failed : i.hasArg2 = .error e)

/-- A diagnostic that an instruction lets out tells of one of its faults, and of the line and the
text of this instruction. -/
lemma LetsOut.hasFault (h : i.LetsOut (.diagnostic d)) :
    ∃ f, HasFault i f ∧ d = ⟨f, some i.location, some i.text⟩ := by
  -- only the second operand can let out anything but a fault, and that is no diagnostic
  have key : ∃ f, ReadError.diagnostic d = i.faulty f ∧ HasFault i f := by
    cases h with
    | kind failed =>
      obtain ⟨f, hf, hfault, _⟩ := hasFault_of_kind failed
      exact ⟨f, hf, hfault⟩
    | arg1 failed => exact hasFault_of_arg1 failed
    | arg2 failed =>
      rcases hasFault_of_arg2 failed with hfault | ⟨digits, hlong⟩
      · exact hfault
      · contradiction
    | hasArg2 failed =>
      obtain ⟨f, hf, hfault, _⟩ := hasFault_of_kind (hasArg2_eq_error_iff.mp failed)
      exact ⟨f, hf, hfault⟩
  obtain ⟨f, hf, hfault⟩ := key
  exact ⟨f, hfault, ReadError.diagnostic.inj hf⟩

/-- A report about an instruction of a source points at the line that it stands on. -/
theorem LetsOut.pinpoints (hfilename : OneLine filename)
    (hi : i ∈ Source.instructions marker filename source) (h : i.LetsOut (.diagnostic d)) :
    ∃ n, Pinpoints filename source i n d := by
  obtain ⟨n, text, hclean, rfl⟩ := Source.mem_instructions_iff.mp hi
  obtain ⟨hpos, line, hline, htrim, _⟩ := Source.mem_clean_iff.mp hclean
  obtain ⟨f, hfault, rfl⟩ := h.hasFault
  have htext : OneLine text := Source.oneLine_of_trim (List.mem_of_getElem? hline) htrim
  exact ⟨n, ⟨line, hline, htrim⟩, hpos, rfl, rfl, hfault.lines_message hfilename htext n⟩

end Instruction

/-! ## Sessions -/

namespace Cursor.Session

/-- A question that an instruction answers with an error brings that error out. -/
lemma letsOut_of_answerOf {i : Instruction} {question : Accessor} {e : ReadError}
    (h : answerOf i question = .failed e) : i.LetsOut e := by
  cases question with
  | kind => exact .kind (failed_of_ofExcept (fun _ => Answer.noConfusion) h)
  | arg1 => exact .arg1 (failed_of_ofExcept (fun _ => Answer.noConfusion) h)
  | arg2 => exact .arg2 (failed_of_ofExcept (fun _ => Answer.noConfusion) h)

/-- After any run over a source whose name is on one line, a report about an instruction that was
handed out points at the line that the instruction stands on. It does so whether the instruction
itself was asked or the session, which has reports of its own only while nothing is current. -/
theorem pinpoints_of_failed (marker source : String) {filename : String}
    (hfilename : '\n' ∉ filename.toList) (steps : List Step) :
    let s := (ofSource marker filename source).after steps
    (∀ i ∈ s.handedOut, ∀ d, i.LetsOut (.diagnostic d) →
        ∃ n, Pinpoints filename source i n d) ∧
      ∀ question d, (s.perform (ask question)).1 = .failed (.diagnostic d) →
        (s.cursor.current = none ∧ d.fault.family = .noCurrent) ∨
          ∃ i ∈ s.handedOut, s.cursor.current = some i ∧ ∃ n, Pinpoints filename source i n d := by
  intro s
  have hfollows : FollowsFrom (Source.instructions marker filename source)
      ((ofSource marker filename source).history steps) s :=
    followsFrom_after (followsFrom_ofSource marker filename source) steps
  have hreports : ∀ i ∈ s.handedOut, ∀ d, i.LetsOut (.diagnostic d) →
      ∃ n, Pinpoints filename source i n d := by
    intro i hi d hd
    exact hd.pinpoints hfilename (hfollows.mem_of_mem_handedOut hi)
  refine ⟨hreports, fun question d hd => ?_⟩
  cases hcurrent : s.cursor.current with
  | none =>
    rw [ask_of_no_current hcurrent] at hd
    rw [← ReadError.diagnostic.inj (Answer.failed.inj hd)]
    exact .inl ⟨rfl, rfl⟩
  | some i =>
    rw [ask_of_current hcurrent] at hd
    have hi : i ∈ s.handedOut := hfollows.current_mem hcurrent
    exact .inr ⟨i, hi, rfl, hreports i hi d (letsOut_of_answerOf hd)⟩

/-- The report of a missing numeral, on the second line of a source that starts with a blank one. -/
theorem pinpoints_of_word_for_number :
    let source := "\n push constant x\n"
    let i : Instruction := ⟨"push constant x", 2, "Main.vm"⟩
    let d : Diagnostic :=
      ⟨.notANumber "x" "push" "constant", some ⟨"Main.vm", 2⟩, some "push constant x"⟩
    '\n' ∉ "Main.vm".toList ∧
      i ∈ ((ofSource "/" "Main.vm" source).after [.advance]).handedOut ∧
      i.arg2 = .error (.diagnostic d) ∧ ∃ n, Pinpoints "Main.vm" source i n d := by
  intro source i d
  have hfilename : '\n' ∉ "Main.vm".toList := by decide
  have hi : i ∈ ((ofSource "/" "Main.vm" source).after [.advance]).handedOut := by decide +kernel
  have harg2 : i.arg2 = .error (.diagnostic d) := by decide +kernel
  refine ⟨hfilename, hi, harg2, ?_⟩
  exact (pinpoints_of_failed "/" source hfilename [.advance]).1 i hi d (.arg2 harg2)

end Cursor.Session

end HackFrontEnd
