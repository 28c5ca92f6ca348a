import HackFrontEnd.Proofs.Source.Cleaning
import Mathlib.Data.List.Basic

/-!
# Sources put together

Cleaning works line by line, and all that it knows about the lines before is how many there are:

* `clean_append`: of two sources with a line feed between them, each is cleaned by itself, and the
  numbers of the second one are moved on by the lines of the first;
* `clean_insertLines`: lines that are skipped move the numbers behind them on, and have no other
  effect;
* `filter_clean_setLine`: another line in place of a line changes at most the entry of that line;
* `clean_compositional`: all of that together.
-/

namespace HackFrontEnd.Source

open Text

variable {marker source : String} {start : Nat}

/-! ## Numbers -/

/-- The entry with its number moved on. -/
def movedOn (count : Nat) (entry : Nat × String) : Nat × String :=
  (entry.1 + count, entry.2)

/-- The number of a line has no say in whether it is an instruction. -/
lemma instructionOn?_add (marker : String) (line : List Char) (n count : Nat) :
    instructionOn? marker (line, count + n) =
      (instructionOn? marker (line, n)).map (movedOn count) := by
  rw [instructionOn?, instructionOn?]
  split
  · rw [Option.map_some, movedOn, Nat.add_comm]
  · rfl

/-- Where the count starts is all that the lines before have a say in. -/
theorem cleanFrom_add (marker : String) (start count : Nat) (ls : List (List Char)) :
    cleanFrom marker (count + start) ls = (cleanFrom marker start ls).map (movedOn count) := by
  rw [cleanFrom, cleanFrom, ← List.map_snd_add_zipIdx_eq_zipIdx, List.filterMap_map,
    List.map_filterMap]
  apply List.filterMap_congr
  rintro ⟨line, n⟩ _
  show instructionOn? marker (line, n + count) = _
  rw [Nat.add_comm, instructionOn?_add]

/-- Entries have the numbers of the lines that they stand on. -/
lemma bounds_of_mem_cleanFrom {ls : List (List Char)} {entry : Nat × String}
    (h : entry ∈ cleanFrom marker start ls) :
    start ≤ entry.1 ∧ entry.1 < start + ls.length := by
  obtain ⟨⟨line, k⟩, hmem, hentry⟩ := List.mem_filterMap.mp h
  obtain ⟨hk, _⟩ := instructionOn?_eq_some_iff.mp hentry
  obtain ⟨hle, hline⟩ := List.mk_mem_zipIdx_iff_le_and_getElem?_sub.mp hmem
  have hlt : k - start < ls.length := (List.getElem?_eq_some_iff.mp hline).1
  rw [← hk]
  omega

/-! ## Two sources -/

/-- Two sources with a line feed between them are cleaned one by one. -/
theorem clean_append (marker a b : String) :
    clean marker (a ++ "\n" ++ b) =
      clean marker a ++ (clean marker b).map (movedOn (a.toList.count '\n' + 1)) := by
  rw [clean_append_newline, length_lines, Nat.add_comm, cleanFrom_add, clean, clean]

/-! ## Lines that are skipped -/

/-- The line is blank or a comment. -/
def IsSkipped (marker : String) (line : List Char) : Prop :=
  (∀ c ∈ line, isBlank c = true) ∨ marker.toList <+: trim line

lemma not_isInstruction_of_isSkipped {line : List Char} (h : IsSkipped marker line) :
    ¬isInstruction marker (trim line) = true := by
  rw [isInstruction_iff]
  rintro ⟨hne, hmarker⟩
  exact h.elim (fun hblank => hne (trim_eq_nil_iff.mpr hblank)) hmarker

lemma cleanFrom_of_isSkipped {ls : List (List Char)} (h : ∀ line ∈ ls, IsSkipped marker line) :
    cleanFrom marker start ls = [] := by
  rw [cleanFrom, List.filterMap_eq_nil_iff]
  rintro ⟨line, n⟩ hmem
  have hline : line ∈ ls := List.fst_mem_of_mem_zipIdx hmem
  rw [instructionOn?, if_neg (not_isInstruction_of_isSkipped (h line hline))]

/-- The second text is the first one with whole lines put in after some of its lines. Read the other
way, the first is the second with these lines taken out. -/
def InsertsLines (source : String) (after : Nat) (inserted : List (List Char))
    (longer : String) : Prop :=
  lines longer.toList =
    (lines source.toList).take after ++ (inserted ++ (lines source.toList).drop after)

/-- The entry, moved on if it stands behind some line. -/
def movedOnBehind (line count : Nat) (entry : Nat × String) : Nat × String :=
  if entry.1 ≤ line then entry else movedOn count entry

/-- Lines that are skipped move the entries behind them on, and have no other effect. -/
theorem clean_insertLines {after : Nat} {inserted : List (List Char)} {longer : String}
    (h : InsertsLines source after inserted longer)
    (hskipped : ∀ line ∈ inserted, IsSkipped marker line) :
    clean marker longer =
      (clean marker source).map (movedOnBehind after inserted.length) := by
  set front := (lines source.toList).take after with hfront
  set back := (lines source.toList).drop after with hback
  -- entries in front of the lines keep their numbers, and those behind them are moved on
  have hkept : ∀ entry ∈ cleanFrom marker 1 front,
      movedOnBehind after inserted.length entry = id entry := by
    intro entry hentry
    have hbounds := bounds_of_mem_cleanFrom hentry
    rw [hfront, List.length_take] at hbounds
    rw [movedOnBehind, if_pos (by omega), id]
  have hmoved : ∀ entry ∈ cleanFrom marker (1 + front.length) back,
      movedOnBehind after inserted.length entry = movedOn inserted.length entry := by
    intro entry hentry
    have hbounds := bounds_of_mem_cleanFrom hentry
    rw [hfront, hback, List.length_take, List.length_drop] at hbounds
    rw [movedOnBehind, if_neg (by omega)]
  have hsource : clean marker source =
      cleanFrom marker 1 front ++ cleanFrom marker (1 + front.length) back := by
    rw [← cleanFrom_append, List.take_append_drop, clean]
  have hlonger : clean marker longer = cleanFrom marker 1 front ++
      cleanFrom marker (inserted.length + (1 + front.length)) back := by
    rw [clean, h, cleanFrom_append, cleanFrom_append, cleanFrom_of_isSkipped hskipped,
      List.nil_append, Nat.add_comm inserted.length]
  rw [hlonger, hsource, cleanFrom_add, List.map_append, List.map_congr_left hkept, List.map_id,
    List.map_congr_left hmoved]

/-! ## Lines that are changed -/

/-- Another line in place of a line changes at most the entry of that line. -/
theorem filter_clean_setLine {k : Nat} {line : List Char} {edited : String}
    (h : lines edited.toList = (lines source.toList).set k line) :
    (clean marker edited).filter (·.1 ≠ k + 1) = (clean marker source).filter (·.1 ≠ k + 1) := by
  -- the entries are in the order of their lines, so it suffices to tell which ones there are
  apply eq_of_mem_iff_of_pairwise ((pairwise_clean marker edited).filter _)
    ((pairwise_clean marker source).filter _)
  intro n t
  rw [List.mem_filter, List.mem_filter, decide_eq_true_iff]
  apply and_congr_left
  intro hn
  rw [mem_clean_iff, mem_clean_iff, h]
  refine and_congr_right fun hle => ?_
  rw [List.getElem?_set_ne (by omega)]

/-! ## All of that together -/

/-- Cleaning is compositional in the source. Two sources with a line feed between them are cleaned
one by one, with the numbers of the second moved on by the lines of the first. So whole lines that
are skipped, wherever they are put in or taken out, change no text of an instruction, and move just
the numbers behind them; and another line in place of a line changes at most the entry of that
line. -/
theorem clean_compositional (marker : String) :
    (∀ a b : String, clean marker (a ++ "\n" ++ b) =
      clean marker a ++ (clean marker b).map (movedOn (a.toList.count '\n' + 1))) ∧
    (∀ source after inserted longer, InsertsLines source after inserted longer →
      (∀ line ∈ inserted, IsSkipped marker line) →
      clean marker longer =
        (clean marker source).map (movedOnBehind after inserted.length)) ∧
    ∀ (source edited : String) (k : Nat) (line : List Char),
      lines edited.toList = (lines source.toList).set k line →
      (clean marker edited).filter (·.1 ≠ k + 1) =
        (clean marker source).filter (·.1 ≠ k + 1) := by
  refine ⟨clean_append marker, ?_, ?_⟩
  · exact fun source after inserted longer h hskipped => clean_insertLines h hskipped
  · exact fun source edited k line h => filter_clean_setLine h

/-- A comment and an empty line between two instructions move the second one on by two. -/
theorem clean_comment_between :
    InsertsLines "add\nsub" 1 [[' ', '/', 'x'], []] "add\n /x\n\nsub" ∧
      (∀ line ∈ [[' ', '/', 'x'], []], IsSkipped "/" line) ∧
      clean "/" "add\n /x\n\nsub" = [(1, "add"), (4, "sub")] := by
  have hinserts : InsertsLines "add\nsub" 1 [[' ', '/', 'x'], []] "add\n /x\n\nsub" := by
    unfold InsertsLines
    decide +kernel
  have hskipped : ∀ line ∈ [[' ', '/', 'x'], []], IsSkipped "/" line := by
    intro line hline
    rcases List.mem_pair.mp hline with rfl | rfl
    · exact .inr (by decide +kernel)
    · exact .inl fun c hc => absurd hc List.not_mem_nil
  refine ⟨hinserts, hskipped, ?_⟩
  rw [(clean_compositional "/").2.1 _ _ _ _ hinserts hskipped]
  decide +kernel

end HackFrontEnd.Source
