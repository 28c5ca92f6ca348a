import HackFrontEnd.Text.Split
import Mathlib.Tactic.Lemma

/-!
# Lines and line feeds

What the lines of a text are, said without splitting it, and that no character but a line feed has
a say in that:

* `IsSegmentation`, `isSegmentation_iff`: the lines are the one way to write a text as pieces
  without line feeds, joined by line feeds;
* `length_lines`: there is one more of them than there are line feeds;
* `lines_insert`: any other character is part of one line, and the other lines stay where they are;
* `lines_intercalate`: texts on one line each are the lines of the text that they are joined to.
-/

namespace HackFrontEnd.Text

/-! ## Segments between line feeds -/

/-- Pieces without line feeds that make up a text when they are joined by line feeds. -/
structure IsSegmentation (cs : List Char) (segments : List (List Char)) : Prop where
  newline_not_mem : ∀ segment ∈ segments, '\n' ∉ segment
  joined : ['\n'].intercalate segments = cs
  ne_nil : segments ≠ []

lemma lines_ne_nil (cs : List Char) : lines cs ≠ [] :=
  List.splitOnP_ne_nil _ cs

/-- There is just one segmentation of a text, into its lines. -/
theorem isSegmentation_iff {cs : List Char} {segments : List (List Char)} :
    IsSegmentation cs segments ↔ segments = lines cs := by
  constructor
  · rintro ⟨hnot, rfl, hne⟩
    rw [lines, ← List.splitOn_eq_splitOnP, List.splitOn_intercalate '\n' hnot hne]
  · rintro rfl
    refine ⟨fun line hline hmem => ne_newline_of_mem_lines hline '\n' hmem rfl, ?_,
      lines_ne_nil cs⟩
    rw [lines, ← List.splitOn_eq_splitOnP]
    exact List.intercalate_splitOn '\n'

/-! ## The first character of a text -/

/-- A line feed at the start ends an empty line. -/
lemma lines_newline_cons (cs : List Char) : lines ('\n' :: cs) = [] :: lines cs :=
  lines_append_newline [] cs

/-- Any other character belongs to the line that follows it. -/
lemma lines_cons {c : Char} (hc : c ≠ '\n') (cs : List Char) :
    lines (c :: cs) = (lines cs).modifyHead (c :: ·) := by
  have hsep : (c == '\n') = false := beq_eq_false_iff_ne.mpr hc
  rw [lines, List.splitOnP_cons_eq_if_modifyHead, if_neg (by simp [hsep]), lines]

/-- There is one line more than there are line feeds. -/
theorem length_lines (cs : List Char) : (lines cs).length = cs.count '\n' + 1 := by
  induction cs with
  | nil => rfl
  | cons c cs ih =>
    by_cases hc : c = '\n'
    · rw [hc, lines_newline_cons, List.length_cons, ih, List.count_cons_self]
    · rw [lines_cons hc, List.length_modifyHead, ih, List.count_cons_of_ne hc]

/-! ## Other characters -/

/-- A character other than a line feed is part of one line, whose number the line feeds before it
settle. It ends no line, and the lines around it are those of the text without it. -/
theorem lines_insert {c : Char} (hc : c ≠ '\n') (a b : List Char) :
    ∃ before front back after,
      lines (a ++ b) = before ++ (front ++ back) :: after ∧
      lines (a ++ c :: b) = before ++ (front ++ c :: back) :: after ∧
      before.length = a.count '\n' := by
  induction a with
  | nil =>
    obtain ⟨line, after, hlines⟩ := List.exists_cons_of_ne_nil (lines_ne_nil b)
    refine ⟨[], [], line, after, hlines, ?_, rfl⟩
    rw [List.nil_append, lines_cons hc, hlines]
    rfl
  | cons d a ih =>
    obtain ⟨before, front, back, after, hwithout, hwith, hlength⟩ := ih
    by_cases hd : d = '\n'
    · refine ⟨[] :: before, front, back, after, ?_, ?_, ?_⟩
      · rw [hd, List.cons_append, lines_newline_cons, hwithout]
        rfl
      · rw [hd, List.cons_append, lines_newline_cons, hwith]
        rfl
      · rw [hd, List.length_cons, hlength, List.count_cons_self]
    · rw [List.cons_append, List.cons_append, lines_cons hd, lines_cons hd, hwithout, hwith,
        List.count_cons_of_ne hd]
      -- the character in front belongs to the first line, which may be the one in question
      cases before with
      | nil => exact ⟨[], d :: front, back, after, rfl, rfl, hlength⟩
      | cons line before => exact ⟨(d :: line) :: before, front, back, after, rfl, rfl, hlength⟩

/-! ## Texts on one line -/

/-- The text has no line feed. -/
def OneLine (s : String) : Prop := '\n' ∉ s.toList

instance (s : String) : Decidable (OneLine s) :=
  inferInstanceAs (Decidable ('\n' ∉ s.toList))

lemma OneLine.append {s t : String} (hs : OneLine s) (ht : OneLine t) : OneLine (s ++ t) := by
  unfold OneLine at *
  rw [String.toList_append, List.mem_append]
  exact fun h => h.elim hs ht

/-- What is in a joined text is in one of its parts, or between them. -/
lemma mem_of_mem_intercalate {separator : List Char} {parts : List (List Char)} {c : Char}
    (h : c ∈ separator.intercalate parts) : c ∈ separator ∨ ∃ part ∈ parts, c ∈ part := by
  induction parts with
  | nil => contradiction
  | cons part parts ih =>
    cases parts with
    | nil => exact .inr ⟨part, List.mem_cons_self, by simpa using h⟩
    | cons next parts =>
      rw [List.intercalate_cons_cons, List.mem_append, List.mem_append] at h
      rcases h with (hpart | hsep) | hrest
      · exact .inr ⟨part, List.mem_cons_self, hpart⟩
      · exact .inl hsep
      · rcases ih hrest with hsep | ⟨other, hother, hc⟩
        · exact .inl hsep
        · exact .inr ⟨other, List.mem_cons_of_mem part hother, hc⟩

/-- Texts on one line stay on it when they are joined by a separator on one line. -/
lemma OneLine.intercalate {separator : String} {texts : List String} (hsep : OneLine separator)
    (h : ∀ s ∈ texts, OneLine s) : OneLine (separator.intercalate texts) := by
  unfold OneLine
  rw [String.toList_intercalate]
  intro hmem
  rcases mem_of_mem_intercalate hmem with hc | ⟨part, hpart, hc⟩
  · exact hsep hc
  · obtain ⟨s, hs, rfl⟩ := List.mem_map.mp hpart
    exact h s hs hc

/-- Texts on one line each are the lines of the text that they are joined to. -/
theorem lines_intercalate {texts : List String} (hne : texts ≠ [])
    (h : ∀ s ∈ texts, OneLine s) :
    lines ("\n".intercalate texts).toList = texts.map String.toList := by
  symm
  apply isSegmentation_iff.mp
  refine ⟨?_, ?_, ?_⟩
  · intro line hline
    obtain ⟨s, hs, rfl⟩ := List.mem_map.mp hline
    exact h s hs
  · rw [String.toList_intercalate]
    rfl
  · intro hnil
    exact hne (List.map_eq_nil_iff.mp hnil)

end HackFrontEnd.Text
