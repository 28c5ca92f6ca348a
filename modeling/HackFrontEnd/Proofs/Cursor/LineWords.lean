import HackFrontEnd.Proofs.Cursor.Pinpoints

/-!
# The words of what is handed out

A line is kept for what is left of it by trimming, and its kind is settled by its words. Trimming
and splitting know the same blanks, so a line that is kept has words:

* `Source.words_of_isInstruction`: what is left of such a line starts with its first word and ends
  with its last one;
* `Instruction.ReadsLine`: what this says about an instruction and the line that it stands on;
* `Cursor.Session.readsLine_of_mem_handedOut`: it is so for every instruction that any run over any
  source hands out, so that an unknown keyword is the only thing that can be wrong with a kind.
-/

namespace HackFrontEnd

open Text

variable {marker source filename : String} {i : Instruction}

/-! ## Lines that are kept -/

/-- What is left of a line that is kept starts with the first of its words and ends with the last:
it is not empty, and neither of its ends is blank. -/
lemma Source.words_of_isInstruction {line : List Char}
    (h : isInstruction marker (trim line) = true) :
    (∃ w ws, words line = w :: ws ∧ w <+: trim line) ∧
      ∃ ws w, words line = ws ++ [w] ∧ w <:+ trim line := by
  have hne : trim line ≠ [] := (isInstruction_iff.mp h).1
  have htrimmed : IsTrimmed (trim line) := isTrimmed_trim line
  -- splitting takes no notice of blanks at the ends, so the words of the line are those of what is
  -- left
  rw [← words_trim]
  exact ⟨exists_first_word hne htrimmed.head, exists_last_word hne htrimmed.last⟩

/-! ## Instructions and the words of their lines -/

lemma Kind.ofKeyword?_eq_none_iff {w : String} :
    Kind.ofKeyword? w = none ↔ w ∉ keywords.map Prod.fst := by
  rw [Kind.ofKeyword?, List.lookup_eq_none_iff, List.mem_map]
  constructor
  · rintro h ⟨p, hp, rfl⟩
    exact bne_iff_ne.mp (h p hp) rfl
  · intro h p hp
    exact bne_iff_ne.mpr fun heq => h ⟨p, hp, heq.symm⟩

namespace Instruction

/-- The instruction has the words of the line of the source that it stands on, as that line stands
there, and its kind is looked up by the first of them. -/
structure ReadsLine (marker source : String) (i : Instruction) : Prop where
  words_eq : ∃ (n : Nat) (line : List Char), i.line = n ∧ 1 ≤ n ∧
    (lines source.toList)[n - 1]? = some line ∧ i.words = (Text.words line).map String.ofList
  head_words : i.words.head? = some i.keyword
  isWord : ∀ w ∈ i.words, w ≠ "" ∧ ∀ c ∈ w.toList, isBlank c = false
  starts_with_keyword : i.keyword.toList <+: i.text.toList
  ends_with_last : ∃ w, i.words.getLast? = some w ∧ w.toList <:+ i.text.toList
  /-- The keyword does not start a comment, no more than the text does. -/
  keyword_not_marked : ¬marker.toList <+: i.keyword.toList
  kind_ne_empty : i.kind ≠ .error (i.faulty .emptyInstruction)
  /-- The kind of no other keyword fails, and that of an unknown one fails for being unknown. -/
  kind_eq_error_iff : ∀ e, i.kind = .error e ↔ i.keyword ∉ keywords.map Prod.fst ∧
    e = i.faulty (.unknownKeyword i.keyword (closeMatches i.keyword (keywords.map Prod.fst)))

/-- The words of an instruction are not empty and have no blanks in them. -/
lemma isWord_of_mem_words {w : String} (h : w ∈ i.words) :
    w ≠ "" ∧ ∀ c ∈ w.toList, isBlank c = false := by
  obtain ⟨cs, hcs, rfl⟩ := List.mem_map.mp h
  obtain ⟨hne, hblank⟩ := word_of_mem_words hcs
  rw [String.toList_ofList, Ne, ← String.toList_eq_nil_iff, String.toList_ofList]
  exact ⟨hne, hblank⟩

/-- An instruction that has words has no other fault of its kind than an unknown keyword. -/
lemma kind_eq_error_iff_of_words {w : String} {ws : List String} (hw : i.words = w :: ws)
    (e : ReadError) :
    i.kind = .error e ↔ i.keyword ∉ keywords.map Prod.fst ∧
      e = i.faulty (.unknownKeyword i.keyword
        (closeMatches i.keyword (keywords.map Prod.fst))) := by
  rw [keyword_eq hw]
  cases hk : Kind.ofKeyword? w with
  | none =>
    rw [kind_of_unknown_keyword hw hk, Except.error.injEq, eq_comm]
    exact (and_iff_right (Kind.ofKeyword?_eq_none_iff.mp hk)).symm
  | some k =>
    have hknown : w ∈ keywords.map Prod.fst := by
      by_contra hunknown
      rw [Kind.ofKeyword?_eq_none_iff.mpr hunknown] at hk
      contradiction
    rw [kind_of_keyword hw hk]
    simp [hknown]

/-- Every instruction of a source reads its line. -/
theorem readsLine_of_mem (h : i ∈ Source.instructions marker filename source) :
    ReadsLine marker source i := by
  obtain ⟨n, text, hclean, rfl⟩ := Source.mem_instructions_iff.mp h
  obtain ⟨hpos, line, hline, htext, hkept⟩ := Source.mem_clean_iff.mp hclean
  obtain ⟨⟨w, ws, hhead, hprefix⟩, init, last, hlast, hsuffix⟩ :=
    Source.words_of_isInstruction hkept
  have hmarker : ¬marker.toList <+: trim line := (Source.isInstruction_iff.mp hkept).2
  have hwords : (⟨text, n, filename⟩ : Instruction).words =
      (Text.words line).map String.ofList := by
    rw [words, htext, words_trim]
  have hcons : (⟨text, n, filename⟩ : Instruction).words =
      String.ofList w :: ws.map String.ofList := by
    rw [hwords, hhead, List.map_cons]
  have hkeyword : (⟨text, n, filename⟩ : Instruction).keyword.toList = w := by
    rw [keyword_eq hcons, String.toList_ofList]
  have hkind := kind_eq_error_iff_of_words hcons
  refine ⟨⟨n, line, rfl, hpos, hline, hwords⟩, ?_, fun _ => isWord_of_mem_words, ?_, ?_, ?_, ?_,
    hkind⟩
  · rw [keyword_eq hcons, hcons, List.head?_cons]
  · rw [hkeyword, htext]
    exact hprefix
  · refine ⟨String.ofList last, ?_, ?_⟩
    · rw [hwords, hlast, List.map_append, List.map_singleton, List.getLast?_concat]
    · rw [String.toList_ofList, htext]
      exact hsuffix
  -- a marker that starts the keyword starts the text, and the line would have been skipped
  · rw [hkeyword]
    exact fun hstarts => hmarker (hstarts.trans hprefix)
  · intro hempty
    have hfault := (hkind _).mp hempty
    cases hfault.2

end Instruction

namespace Cursor.Session

/-- Trimming and splitting know the same blanks. After any run over any source, every instruction
that was handed out has the words of its line, and at least one of them, with which its text starts
and ends; so its kind is never at fault for having none. -/
theorem readsLine_of_mem_handedOut (marker filename source : String) (steps : List Step) :
    ∀ i ∈ ((ofSource marker filename source).after steps).handedOut,
      Instruction.ReadsLine marker source i := by
  intro i hi
  have hfollows : FollowsFrom (Source.instructions marker filename source)
      ((ofSource marker filename source).history steps)
      ((ofSource marker filename source).after steps) :=
    followsFrom_after (followsFrom_ofSource marker filename source) steps
  exact Instruction.readsLine_of_mem (hfollows.mem_of_mem_handedOut hi)

/-- Blanks of all sorts, within a line that a walk to the end hands out and at its ends. -/
theorem readsLine_of_odd_blanks :
    let source := "/\n\u2003push\u0085constant\x1c7 \x0c\r\n"
    let i : Instruction := ⟨"push\u0085constant\x1c7", 2, "Main.vm"⟩
    i ∈ ((ofSource "/" "Main.vm" source).after [.drain]).handedOut ∧
      Instruction.ReadsLine "/" source i ∧ i.words = ["push", "constant", "7"] := by
  intro source i
  have hi : i ∈ ((ofSource "/" "Main.vm" source).after [.drain]).handedOut := by decide +kernel
  exact ⟨hi, readsLine_of_mem_handedOut "/" "Main.vm" source [.drain] i hi, by decide +kernel⟩

end Cursor.Session

end HackFrontEnd
