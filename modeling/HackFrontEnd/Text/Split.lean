/-!
# Blanks, lines and words

Which characters count as space, trimming them from the ends of a text, and cutting a text at line
feeds or at blanks.

- `isBlank` is the one table that trimming and word splitting share.
- `trim` drops the longest blank run at both ends, `trimEnd` at the end alone.
- `not_of_mem_splitOnP`: no part holds a separator, so a line is one line and a word one word.
- `lines_append_newline`: a line feed separates two texts that have lines of their own.
-/

namespace HackFrontEnd.Text

/-! ## Blanks -/

/-- Space, the horizontal and vertical separators of ASCII, and the separators of Unicode. -/
def isBlank (c : Char) : Bool :=
  let n := c.toNat
  (0x09 ≤ n && n ≤ 0x0D) || (0x1C ≤ n && n ≤ 0x20) || n == 0x85 || n == 0xA0 || n == 0x1680 ||
    (0x2000 ≤ n && n ≤ 0x200A) || n == 0x2028 || n == 0x2029 || n == 0x202F || n == 0x205F ||
    n == 0x3000

/-- A line feed is blank, so it never survives at the end of a trimmed text. -/
theorem isBlank_newline : isBlank '\n' = true := by decide

/-- The text without the blanks at its end. -/
def trimEnd (cs : List Char) : List Char :=
  (cs.reverse.dropWhile isBlank).reverse

/-- The text without the blanks at its ends. -/
def trim (cs : List Char) : List Char :=
  trimEnd (cs.dropWhile isBlank)

/-! ## Lines and words -/

/-- The lines of a text. Only a line feed ends one. -/
def lines (cs : List Char) : List (List Char) :=
  cs.splitOnP (· == '\n')

/-- The words of a text: its longest stretches without a blank. -/
def words (cs : List Char) : List (List Char) :=
  (cs.splitOnP isBlank).filter (!·.isEmpty)

/-- No part of a split list holds a separator. -/
theorem not_of_mem_splitOnP {α : Type} {p : α → Bool} {xs part : List α}
    (h : part ∈ xs.splitOnP p) : ∀ x ∈ part, p x = false := by
  induction xs generalizing part with
  | nil => simp_all
  | cons y ys ih =>
    rw [List.splitOnP_cons_eq_if_modifyHead] at h
    split at h
    · rcases List.mem_cons.mp h with rfl | h
      · simp
      · exact ih h
    · rename_i hy
      obtain ⟨q, qs, hq⟩ := List.exists_cons_of_ne_nil (List.splitOnP_ne_nil p ys)
      rw [hq, List.modifyHead_cons] at h
      rcases List.mem_cons.mp h with rfl | h
      · intro x hx
        rcases List.mem_cons.mp hx with rfl | hx
        · simpa using hy
        · exact ih (hq ▸ List.mem_cons_self) x hx
      · exact ih (hq ▸ List.mem_cons_of_mem _ h)

/-- A part of a split list is made of members of the list. -/
theorem subset_of_mem_splitOnP {α : Type} {p : α → Bool} {xs part : List α}
    (h : part ∈ xs.splitOnP p) : part ⊆ xs := by
  induction xs generalizing part with
  | nil => simp_all
  | cons y ys ih =>
    rw [List.splitOnP_cons_eq_if_modifyHead] at h
    split at h
    · rcases List.mem_cons.mp h with rfl | h
      · exact List.nil_subset _
      · exact List.subset_cons_of_subset y (ih h)
    · obtain ⟨q, qs, hq⟩ := List.exists_cons_of_ne_nil (List.splitOnP_ne_nil p ys)
      rw [hq, List.modifyHead_cons] at h
      rcases List.mem_cons.mp h with rfl | h
      · exact List.cons_subset_cons y (ih (hq ▸ List.mem_cons_self))
      · exact List.subset_cons_of_subset y (ih (hq ▸ List.mem_cons_of_mem _ h))

/-- A line feed separates two texts that have lines of their own. -/
theorem lines_append_newline (a b : List Char) : lines (a ++ '\n' :: b) = lines a ++ lines b :=
  List.splitOnP_append_cons a b rfl

/-- No line holds a line feed. -/
theorem ne_newline_of_mem_lines {cs line : List Char} (h : line ∈ lines cs) :
    ∀ c ∈ line, c ≠ '\n' := fun c hc => by
  simpa using not_of_mem_splitOnP h c hc

/-- A word is not empty and has no blanks. -/
theorem word_of_mem_words {cs w : List Char} (h : w ∈ words cs) :
    w ≠ [] ∧ ∀ c ∈ w, isBlank c = false := by
  obtain ⟨hmem, hne⟩ := List.mem_filter.mp h
  exact ⟨by simpa using hne, not_of_mem_splitOnP hmem⟩

/-- A word is made of characters of the text. -/
theorem subset_of_mem_words {cs w : List Char} (h : w ∈ words cs) : w ⊆ cs :=
  subset_of_mem_splitOnP (List.mem_filter.mp h).1

end HackFrontEnd.Text
