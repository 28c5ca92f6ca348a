import HackFrontEnd.Source
import HackFrontEnd.Proofs.Text.Lines
import HackFrontEnd.Proofs.Text.Words
import Mathlib.Data.List.Sort

/-!
# What cleaning keeps

Which lines of a source are instructions, line by line, with nothing said about how cleaning goes
about it:

* `mem_clean_iff`: an entry is a line with its number, trimmed, if anything is left that does not
  start with the comment marker;
* `pairwise_clean`: the entries are in the order of the lines;
* `mem_clean_insert`: a character other than a line feed changes the entry of its own line only;
* `clean_meets_spec`: all of this, and what follows for odd markers.
-/

namespace HackFrontEnd.Source

open Text

variable {marker source : String} {n : Nat} {t : String}

/-! ## The entry of a line -/

/-- A trimmed line is an instruction if there is anything on it, and it does not start with the
marker. -/
lemma isInstruction_iff {line : List Char} :
    isInstruction marker line = true ↔ line ≠ [] ∧ ¬marker.toList <+: line := by
  rw [isInstruction, Bool.and_eq_true, Bool.not_eq_true', Bool.not_eq_true',
    ← Bool.not_eq_true, ← Bool.not_eq_true, List.isPrefixOf_iff_prefix, List.isEmpty_iff]

/-- The instruction on a line has the number of the line, and what is left of it by trimming. -/
lemma instructionOn?_eq_some_iff {line : List Char} {k : Nat} :
    instructionOn? marker (line, k) = some (n, t) ↔
      k = n ∧ t.toList = trim line ∧ isInstruction marker (trim line) = true := by
  rw [instructionOn?]
  split
  · rename_i hkept
    rw [Option.some.injEq, Prod.mk.injEq, ← String.toList_inj, String.toList_ofList]
    exact ⟨fun h => ⟨h.1, h.2.symm, hkept⟩, fun h => ⟨h.1, h.2.1.symm⟩⟩
  · rename_i hdropped
    exact ⟨fun h => by contradiction, fun h => absurd h.2.2 hdropped⟩

/-- An entry is an instruction on the line of its number, counted from one. -/
theorem mem_clean_iff :
    (n, t) ∈ clean marker source ↔
      1 ≤ n ∧ ∃ line, (lines source.toList)[n - 1]? = some line ∧ t.toList = trim line ∧
        isInstruction marker (trim line) = true := by
  rw [clean, cleanFrom, List.mem_filterMap]
  constructor
  · rintro ⟨⟨line, k⟩, hmem, hentry⟩
    obtain ⟨rfl, htext, hkept⟩ := instructionOn?_eq_some_iff.mp hentry
    obtain ⟨hle, hline⟩ := List.mk_mem_zipIdx_iff_le_and_getElem?_sub.mp hmem
    exact ⟨hle, line, hline, htext, hkept⟩
  · rintro ⟨hle, line, hline, htext, hkept⟩
    exact ⟨(line, n), List.mk_mem_zipIdx_iff_le_and_getElem?_sub.mpr ⟨hle, hline⟩,
      instructionOn?_eq_some_iff.mpr ⟨rfl, htext, hkept⟩⟩

/-- An entry is what blanks surround on the line of its number, unless that is a comment. -/
theorem mem_clean_iff_withoutBlankEnds :
    (n, t) ∈ clean marker source ↔
      1 ≤ n ∧ n ≤ (lines source.toList).length ∧
        ∃ line, (lines source.toList)[n - 1]? = some line ∧ WithoutBlankEnds line t.toList ∧
          t ≠ "" ∧ ¬marker.toList <+: t.toList := by
  rw [mem_clean_iff]
  constructor
  · rintro ⟨hle, line, hline, htext, hkept⟩
    have hlt : n - 1 < (lines source.toList).length := (List.getElem?_eq_some_iff.mp hline).1
    rw [← htext, isInstruction_iff] at hkept
    refine ⟨hle, by omega, line, hline, withoutBlankEnds_iff.mpr htext, ?_, hkept.2⟩
    rintro rfl
    exact hkept.1 rfl
  · rintro ⟨hle, _, line, hline, hends, hne, hmarker⟩
    have htext : t.toList = trim line := withoutBlankEnds_iff.mp hends
    refine ⟨hle, line, hline, htext, ?_⟩
    rw [← htext, isInstruction_iff]
    exact ⟨fun hnil => hne (String.toList_eq_nil_iff.mp hnil), hmarker⟩

/-- What is left of a line by trimming is on one line. -/
lemma oneLine_of_trim {line : List Char} (hline : line ∈ lines source.toList)
    (htext : t.toList = trim line) : OneLine t := by
  unfold OneLine
  rw [htext]
  intro hmem
  exact ne_newline_of_mem_lines hline '\n' (trim_subset line hmem) rfl

/-! ## All entries -/

/-- The entries are in the order of the lines, at most one to a line. -/
theorem pairwise_clean (marker source : String) :
    (clean marker source).Pairwise fun e e' => e.1 < e'.1 := by
  rw [clean, cleanFrom, List.pairwise_filterMap]
  have hsorted : ((lines source.toList).zipIdx 1).Pairwise fun x y => x.2 < y.2 := by
    rw [← List.pairwise_map (f := Prod.snd), List.zipIdx_map_snd]
    exact List.pairwise_lt_range'
  refine hsorted.imp ?_
  rintro ⟨line, k⟩ ⟨line', k'⟩ hlt ⟨n, t⟩ hentry ⟨n', t'⟩ hentry'
  rw [← (instructionOn?_eq_some_iff.mp hentry).1, ← (instructionOn?_eq_some_iff.mp hentry').1]
  exact hlt

/-- Entries in the order of their lines are settled by which ones there are. -/
lemma eq_of_mem_iff_of_pairwise {entries entries' : List (Nat × String)}
    (h : entries.Pairwise fun e e' => e.1 < e'.1)
    (h' : entries'.Pairwise fun e e' => e.1 < e'.1)
    (hmem : ∀ n t, (n, t) ∈ entries ↔ (n, t) ∈ entries') : entries = entries' := by
  have hasymm : Std.Asymm fun e e' : Nat × String => e.1 < e'.1 :=
    ⟨fun _ _ hlt => Nat.lt_asymm hlt⟩
  exact h.eq_of_mem_iff h' fun entry => hmem entry.1 entry.2

/-- There are as many entries as lines that are instructions. -/
theorem length_clean (marker source : String) :
    (clean marker source).length =
      (lines source.toList).countP fun line => isInstruction marker (trim line) := by
  have hkept : ∀ entry : List Char × Nat,
      (instructionOn? marker entry).isSome = isInstruction marker (trim entry.1) := by
    intro entry
    rw [instructionOn?]
    split <;> simp_all
  calc (clean marker source).length
      = ((lines source.toList).zipIdx 1).countP fun entry =>
          isInstruction marker (trim entry.1) := by
        rw [clean, cleanFrom, List.length_filterMap_eq_countP]
        simp only [hkept]
    _ = (((lines source.toList).zipIdx 1).map Prod.fst).countP fun line =>
          isInstruction marker (trim line) := by
        rw [List.countP_map]
        rfl
    _ = (lines source.toList).countP fun line => isInstruction marker (trim line) := by
        rw [List.zipIdx_map_fst]

/-- A line that is not blank has no entry exactly if it is a comment. -/
lemma not_mem_clean_iff {line : List Char} (hn : 1 ≤ n)
    (hline : (lines source.toList)[n - 1]? = some line) (hblank : ∃ c ∈ line, isBlank c = false) :
    (∀ t, (n, t) ∉ clean marker source) ↔ marker.toList <+: trim line := by
  have hentry : (∃ t, (n, t) ∈ clean marker source) ↔ ¬marker.toList <+: trim line := by
    constructor
    · rintro ⟨t, ht⟩
      obtain ⟨_, line', hline', _, hkept⟩ := mem_clean_iff.mp ht
      rw [hline] at hline'
      obtain rfl : line = line' := Option.some.inj hline'
      exact (isInstruction_iff.mp hkept).2
    · intro hmarker
      exact ⟨String.ofList (trim line), mem_clean_iff.mpr ⟨hn, line, hline, String.toList_ofList,
        isInstruction_iff.mpr ⟨trim_ne_nil_iff.mpr hblank, hmarker⟩⟩⟩
  rw [← not_exists, hentry, not_not]

/-! ## Odd markers -/

/-- Every text starts with the empty marker. -/
lemma clean_empty_marker (source : String) : clean "" source = [] := by
  rw [clean, cleanFrom, List.filterMap_eq_nil_iff]
  rintro ⟨line, k⟩ _
  rw [instructionOn?, if_neg]
  rw [isInstruction_iff]
  exact fun h => h.2 List.nil_prefix

/-- No trimmed text starts with a marker that starts with a blank. -/
lemma isInstruction_trim_of_blank_marker (hblank : ∃ c ∈ marker.toList.head?, isBlank c = true)
    {line : List Char} (hline : ∃ c ∈ line, isBlank c = false) :
    isInstruction marker (trim line) = true := by
  obtain ⟨c, hc, hcblank⟩ := hblank
  rw [isInstruction_iff]
  refine ⟨trim_ne_nil_iff.mpr hline, ?_⟩
  rintro ⟨rest, hrest⟩
  have hhead : c ∈ (trim line).head? := by
    rw [← hrest, List.head?_append, Option.mem_def.mp hc]
    rfl
  rw [(isTrimmed_trim line).head c hhead] at hcblank
  contradiction

/-! ## Characters within lines -/

/-- A character other than a line feed changes at most the entry of the line that it is part of. -/
theorem mem_clean_insert {a b : List Char} {c : Char} (hsource : source.toList = a ++ c :: b)
    (hc : c ≠ '\n') (hn : n ≠ a.count '\n' + 1) :
    (n, t) ∈ clean marker source ↔ (n, t) ∈ clean marker (String.ofList (a ++ b)) := by
  obtain ⟨before, front, back, after, hwithout, hwith, hlength⟩ := lines_insert hc a b
  rw [mem_clean_iff, mem_clean_iff, hsource, String.toList_ofList, hwithout, hwith]
  refine and_congr_right fun hle => ?_
  have hother : n - 1 ≠ before.length := by omega
  have hsame : (before ++ (front ++ c :: back) :: after)[n - 1]? =
      (before ++ (front ++ back) :: after)[n - 1]? := by
    rcases Nat.lt_or_gt_of_ne hother with hlt | hgt
    · rw [List.getElem?_append_left hlt, List.getElem?_append_left hlt]
    · obtain ⟨k, hk⟩ := Nat.exists_eq_add_of_lt hgt
      rw [List.getElem?_append_right hgt.le, List.getElem?_append_right hgt.le]
      have hpast : n - 1 - before.length = k + 1 := by omega
      rw [hpast, List.getElem?_cons_succ, List.getElem?_cons_succ]
  rw [hsame]

/-! ## The specification -/

/-! ## Instructions -/

/-- The instructions are the entries, each with the name of its file. -/
lemma mem_instructions_iff {filename : String} {i : Instruction} :
    i ∈ instructions marker filename source ↔
      ∃ n text, (n, text) ∈ clean marker source ∧ i = ⟨text, n, filename⟩ := by
  rw [instructions, List.mem_map]
  constructor
  · rintro ⟨⟨n, text⟩, hmem, rfl⟩
    exact ⟨n, text, hmem, rfl⟩
  · rintro ⟨n, text, hmem, rfl⟩
    exact ⟨(n, text), hmem, rfl⟩

/-- An instruction is made of characters of its source. -/
lemma subset_of_mem_instructions {filename : String} {i : Instruction}
    (h : i ∈ instructions marker filename source) : i.text.toList ⊆ source.toList := by
  obtain ⟨n, text, hclean, rfl⟩ := mem_instructions_iff.mp h
  obtain ⟨_, line, hline, htext, _⟩ := mem_clean_iff.mp hclean
  intro c hc
  rw [htext] at hc
  exact subset_of_mem_splitOnP (List.mem_of_getElem? hline) (trim_subset line hc)

/-! ## The specification -/

/-- Cleaning meets its specification. The segments between line feeds are the lines, and an entry
is a line with its number and what is left of it without its blank ends, if that is neither empty
nor a comment. So other characters neither end nor shift lines, the empty marker makes every line a
comment, and a marker that starts with a blank makes none one. -/
theorem clean_meets_spec (marker source : String) :
    ∃ segments : List (List Char),
      (∀ pieces, IsSegmentation source.toList pieces ↔ pieces = segments) ∧
      segments.length = source.toList.count '\n' + 1 ∧
      (clean marker source).Pairwise (fun e e' => e.1 < e'.1) ∧
      (∀ n t, (n, t) ∈ clean marker source ↔
        1 ≤ n ∧ n ≤ segments.length ∧ ∃ line, segments[n - 1]? = some line ∧
          WithoutBlankEnds line t.toList ∧ t ≠ "" ∧ ¬marker.toList <+: t.toList) ∧
      (clean marker source).length =
        segments.countP (fun line => decide (trim line ≠ [] ∧ ¬marker.toList <+: trim line)) ∧
      (∀ a c b, source.toList = a ++ c :: b → c ≠ '\n' → ∀ n t, n ≠ a.count '\n' + 1 →
        ((n, t) ∈ clean marker source ↔ (n, t) ∈ clean marker (String.ofList (a ++ b)))) ∧
      clean "" source = [] ∧
      ((∃ c ∈ marker.toList.head?, isBlank c = true) →
        ∀ n line, segments[n]? = some line → (∃ c ∈ line, isBlank c = false) →
          ∃ t, (n + 1, t) ∈ clean marker source) := by
  refine ⟨lines source.toList, fun pieces => isSegmentation_iff, length_lines source.toList,
    pairwise_clean marker source, fun n t => mem_clean_iff_withoutBlankEnds, ?_,
    fun a c b hsource hc n t hn => mem_clean_insert hsource hc hn, clean_empty_marker source, ?_⟩
  · rw [length_clean]
    congr 1
    funext line
    rw [Bool.eq_iff_iff, isInstruction_iff, decide_eq_true_iff]
  · intro hblank n line hline hkept
    refine ⟨String.ofList (trim line), mem_clean_iff.mpr ⟨by omega, line, hline, ?_, ?_⟩⟩
    · rw [String.toList_ofList]
    · exact isInstruction_trim_of_blank_marker hblank hkept

/-- A form feed ends no line, and the marker with a space in front makes no comment. -/
theorem clean_form_feed_and_blank_marker :
    '\x0c' ≠ '\n' ∧ isBlank ' ' = true ∧
      ((2, "#z") ∈ clean " #" "x\x0cy\n #z" ↔ (2, "#z") ∈ clean " #" "xy\n #z") ∧
      ∃ t, (2, t) ∈ clean " #" "x\x0cy\n #z" := by
  obtain ⟨segments, hsegments, _, _, _, _, hinsert, _, hblank⟩ :=
    clean_meets_spec " #" "x\x0cy\n #z"
  have hlines : segments = lines "x\x0cy\n #z".toList :=
    ((hsegments _).mp (isSegmentation_iff.mpr rfl)).symm
  refine ⟨by decide, by decide, ?_, ?_⟩
  · exact hinsert ['x'] '\x0c' ['y', '\n', ' ', '#', 'z'] rfl (by decide) 2 "#z" (by decide)
  · apply hblank ⟨' ', rfl, by decide⟩ 1 [' ', '#', 'z']
    · rw [hlines]
      rfl
    · exact ⟨'#', by decide, by decide⟩

end HackFrontEnd.Source
