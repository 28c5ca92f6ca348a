import HackFrontEnd.Proofs.Instruction.Operands
import HackFrontEnd.Proofs.Text.Lines

/-!
# The wording of faults

A report quotes the source: the words of an instruction, its text, and the names that are like its
keyword. None of these adds a line to the report:

* `HasFault.oneLine_detail`, `HasFault.oneLine_of_hint`: what is said about a fault of an
  instruction takes one line, and so does the hint;
* `HasFault.lines_message`: the lines of a report are those that it is laid out in.
-/

namespace HackFrontEnd

open Text

/-! ## Quoted texts -/

lemma Text.Decimal.oneLine_ofNat (n : Nat) : OneLine (Decimal.ofNat n) := by
  unfold OneLine
  rw [Decimal.ofNat, String.toList_ofList]
  intro hmem
  have hdigit : Char.isDigit '\n' = true :=
    Nat.isDigit_of_mem_toDigits (by decide) (by decide) hmem
  contradiction

lemma oneLine_quotedNames {names : List String} (h : ∀ n ∈ names, OneLine n) :
    OneLine (quotedNames names) := by
  apply OneLine.intercalate (by decide +kernel)
  intro s hs
  obtain ⟨n, hn, rfl⟩ := List.mem_map.mp hs
  have hopened : OneLine ("'" ++ n) := OneLine.append (by decide +kernel) (h n hn)
  exact hopened.append (by decide +kernel)

/-- The names that are suggested for a word are keywords, whatever the word is. -/
lemma oneLine_closeKeywords (word : String) :
    OneLine (quotedNames (closeMatches word (keywords.map Prod.fst))) := by
  have hkeywords : ∀ k ∈ keywords.map Prod.fst, OneLine k := by decide +kernel
  apply oneLine_quotedNames
  intro k hk
  exact hkeywords k (mem_of_mem_closeMatches hk)

lemma Accessor.oneLine_name (question : Accessor) : OneLine question.name := by
  cases question <;> decide +kernel

lemma Kind.oneLine_name (k : Kind) : OneLine k.name := by
  cases k <;> decide +kernel

namespace Instruction

variable {i : Instruction} {f : Fault} {w : String}

/-- A line feed is blank, so no word holds one. -/
lemma oneLine_of_mem_words (h : w ∈ i.words) : OneLine w := by
  obtain ⟨cs, hcs, rfl⟩ := List.mem_map.mp h
  unfold OneLine
  rw [String.toList_ofList]
  intro hmem
  have hblank : isBlank '\n' = false := (word_of_mem_words hcs).2 '\n' hmem
  rw [isBlank_newline] at hblank
  contradiction

/-! ## Faults -/

/-- A word of the instruction between two texts on one line stays on that line. -/
lemma oneLine_between {before after : String} (hbefore : OneLine before) (h : w ∈ i.words)
    (hafter : OneLine after) : OneLine (before ++ w ++ after) :=
  (hbefore.append (oneLine_of_mem_words h)).append hafter

/-- What is said about a fault takes one line. -/
theorem HasFault.oneLine_detail (h : HasFault i f) : OneLine f.detail := by
  cases h with
  | emptyInstruction => decide +kernel
  | unknownKeyword mem => exact oneLine_between (by decide +kernel) mem (by decide +kernel)
  | missingArgument mem => exact oneLine_between (by decide +kernel) mem (by decide +kernel)
  | missingNumber mem => exact oneLine_between (by decide +kernel) mem (by decide +kernel)
  | notANumber _ _ numeral_mem =>
    exact oneLine_between (by decide +kernel) numeral_mem (by decide +kernel)
  | undefinedOperand question k =>
    have hquestion : OneLine (question.name ++ "() is not defined for ") :=
      question.oneLine_name.append (by decide +kernel)
    exact (hquestion.append k.oneLine_name).append (by decide +kernel)

/-- A hint takes one line, and is never empty. -/
theorem HasFault.oneLine_of_hint (h : HasFault i f) {hint : String} (hhint : f.hint = some hint) :
    OneLine hint ∧ hint ≠ "" := by
  cases h with
  | emptyInstruction | missingArgument | missingNumber | undefinedOperand => contradiction
  | @unknownKeyword w mem =>
    have hnames := oneLine_closeKeywords w
    -- there is a hint only if there are names to suggest
    generalize closeMatches w (keywords.map Prod.fst) = close at hhint hnames
    cases close with
    | nil => contradiction
    | cons k close =>
      have heq : "did you mean " ++ quotedNames (k :: close) ++ "?" = hint := Option.some.inj hhint
      have hopened : OneLine ("did you mean " ++ quotedNames (k :: close)) :=
        OneLine.append (by decide +kernel) hnames
      rw [← heq]
      exact ⟨hopened.append (by decide +kernel), by simp⟩
  | @notANumber w argument numeral mem argument_mem _ =>
    have heq : "usage: " ++ w ++ " " ++ argument ++ " <n>" = hint := Option.some.inj hhint
    have hkeyword : OneLine ("usage: " ++ w ++ " ") :=
      oneLine_between (by decide +kernel) mem (by decide +kernel)
    rw [← heq]
    exact ⟨oneLine_between hkeyword argument_mem (by decide +kernel), by simp⟩

/-! ## Reports -/

/-- The layout of the report of a fault. A hint is never empty, so none is left out. -/
lemma HasFault.report_eq (h : HasFault i f) (filename text : String) (n : Nat) :
    Diagnostic.report ⟨f, some ⟨filename, n⟩, some text⟩ =
      (filename ++ ":" ++ Decimal.ofNat n ++ ": error: " ++ f.detail) :: ("    " ++ text) ::
        (f.hint.map ("hint: " ++ ·)).toList := by
  have hplace : (filename ++ ":" ++ Decimal.ofNat n ++ ": ") ++ "error: " ++ f.detail =
      filename ++ ":" ++ Decimal.ofNat n ++ ": error: " ++ f.detail := by
    have hlabel : ": error: " = ": " ++ "error: " := rfl
    rw [hlabel, ← String.append_assoc]
  have hkept : f.hint.filter (· ≠ "") = f.hint := by
    cases hhint : f.hint with
    | none => rfl
    | some hint =>
      have hne : hint ≠ "" := (h.oneLine_of_hint hhint).2
      simp [hne]
  unfold Diagnostic.report
  rw [hkept, ← hplace]
  rfl

/-- The lines of a report are those that it is laid out in, whatever it quotes. -/
theorem HasFault.lines_message (h : HasFault i f) {filename text : String}
    (hfilename : OneLine filename) (htext : OneLine text) (n : Nat) :
    lines (Diagnostic.message ⟨f, some ⟨filename, n⟩, some text⟩).toList =
      ((filename ++ ":" ++ Decimal.ofNat n ++ ": error: " ++ f.detail) :: ("    " ++ text) ::
        (f.hint.map ("hint: " ++ ·)).toList).map String.toList := by
  rw [Diagnostic.message, h.report_eq]
  apply lines_intercalate (List.cons_ne_nil _ _)
  intro line hline
  -- the line with the fault, then the text of the instruction, then the hint
  rcases List.mem_cons.mp hline with rfl | hline
  · have hplace : OneLine (filename ++ ":" ++ Decimal.ofNat n) :=
      (hfilename.append (by decide +kernel)).append (Decimal.oneLine_ofNat n)
    have hlabelled : OneLine (filename ++ ":" ++ Decimal.ofNat n ++ ": error: ") :=
      hplace.append (by decide +kernel)
    exact hlabelled.append h.oneLine_detail
  rcases List.mem_cons.mp hline with rfl | hline
  · exact OneLine.append (by decide +kernel) htext
  · obtain ⟨hint, hhint, rfl⟩ := Option.map_eq_some_iff.mp (Option.mem_toList.mp hline)
    exact OneLine.append (by decide +kernel) (h.oneLine_of_hint hhint).1

end Instruction

end HackFrontEnd
