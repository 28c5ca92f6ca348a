import HackFrontEnd.Text.Split
import Mathlib.Data.List.DropRight

/-!
# Blanks around and between words

Blanks separate words and surround lines, and it does not matter how many there are:

* `words_append_gap`: a gap separates the words on its two sides;
* `words_of_not_isBlank`: a text without blanks is one word;
* `trim_surrounded`: trimming finds the text that blanks surround;
* `withoutBlankEnds_iff`: it takes away the longest blank ends;
* `words_trim`: it leaves the words as they are;
* `exists_first_word`, `exists_last_word`: a text without blanks at its ends starts with its first
  word and ends with its last one;
* `exists_consistsOf`, `ConsistsOf.unique`: a text consists of words in just one way, apart from the
  blanks in it.

Blanks are any characters that count as space, of which the line feed is one among many.
-/

namespace HackFrontEnd.Text

/-! ## Words -/

/-- A blank separates the words on its two sides. All other facts about words follow from this
one. -/
theorem words_append_blank {c : Char} (hc : isBlank c = true) (a b : List Char) :
    words (a ++ c :: b) = words a ++ words b := by
  rw [words, List.splitOnP_append_cons a b hc, List.filter_append, ← words, ← words]

/-- A blank at the start of a text is before its words. -/
lemma words_blank_cons {c : Char} (hc : isBlank c = true) (cs : List Char) :
    words (c :: cs) = words cs := by
  have h := words_append_blank hc [] cs
  rwa [List.nil_append, show words [] = [] from rfl, List.nil_append] at h

lemma words_blanks_append {gap : List Char} (h : ∀ c ∈ gap, isBlank c = true)
    (cs : List Char) : words (gap ++ cs) = words cs := by
  induction gap with
  | nil => rfl
  | cons c gap ih =>
    have hc : isBlank c = true := h c List.mem_cons_self
    have hgap : ∀ d ∈ gap, isBlank d = true := by
      intro d hd
      exact h d (List.mem_cons_of_mem c hd)
    rw [List.cons_append, words_blank_cons hc, ih hgap]

/-- A gap, however long, separates the words on its two sides. -/
theorem words_append_gap {gap : List Char} (hne : gap ≠ [])
    (h : ∀ c ∈ gap, isBlank c = true) (a b : List Char) :
    words (a ++ (gap ++ b)) = words a ++ words b := by
  -- the first blank separates, and the others are in front of a word where they do not count
  obtain ⟨c, gap, rfl⟩ := List.exists_cons_of_ne_nil hne
  have hc : isBlank c = true := h c List.mem_cons_self
  have hgap : ∀ d ∈ gap, isBlank d = true := by
    intro d hd
    exact h d (List.mem_cons_of_mem c hd)
  rw [List.cons_append, words_append_blank hc, words_blanks_append hgap]

/-- A text without blanks is one word. -/
theorem words_of_not_isBlank {w : List Char} (hne : w ≠ []) (h : ∀ c ∈ w, isBlank c = false) :
    words w = [w] := by
  rw [words, List.splitOnP_eq_singleton h]
  simp [hne]

/-- A text that is one word. -/
@[ext] structure Word where
  chars : List Char
  ne_nil : chars ≠ []
  not_isBlank : ∀ c ∈ chars, isBlank c = false
deriving DecidableEq

namespace Word

def text (w : Word) : String := String.ofList w.chars

@[simp] lemma toList_text (w : Word) : w.text.toList = w.chars := String.toList_ofList

lemma words_chars (w : Word) : words w.chars = [w.chars] :=
  words_of_not_isBlank w.ne_nil w.not_isBlank

/-- Every word of a text is one. -/
lemma exists_of_mem {cs w : List Char} (h : w ∈ words cs) :
    ∃ word : Word, word.text = String.ofList w :=
  ⟨⟨w, (word_of_mem_words h).1, (word_of_mem_words h).2⟩, rfl⟩

end Word

/-! ## Trimming -/

/-- A text has no blanks at its ends. -/
structure IsTrimmed (cs : List Char) : Prop where
  head : ∀ c ∈ cs.head?, isBlank c = false
  last : ∀ c ∈ cs.getLast?, isBlank c = false

lemma dropWhile_isBlank_of_head {cs : List Char} (h : ∀ c ∈ cs.head?, isBlank c = false) :
    cs.dropWhile isBlank = cs := by
  cases cs with
  | nil => rfl
  | cons c cs =>
    rw [List.dropWhile_cons, h c rfl]
    rfl

/-- Trimming the end takes away the blanks behind the last other character. -/
lemma trimEnd_append_blanks {cs b : List Char} (hb : ∀ c ∈ b, isBlank c = true)
    (h : ∀ c ∈ cs.getLast?, isBlank c = false) : trimEnd (cs ++ b) = cs := by
  have hrev : (b.reverse ++ cs.reverse).dropWhile isBlank = cs.reverse := by
    have hblanks : ∀ c ∈ b.reverse, isBlank c = true := by
      intro c hc
      exact hb c (List.mem_reverse.mp hc)
    rw [List.dropWhile_append_of_pos hblanks]
    apply dropWhile_isBlank_of_head
    rwa [List.head?_reverse]
  rw [trimEnd, List.reverse_append, hrev, List.reverse_reverse]

lemma trimEnd_cons {c : Char} (hc : isBlank c = false) (cs : List Char) :
    trimEnd (c :: cs) = c :: trimEnd cs := by
  rw [trimEnd, List.reverse_cons, List.dropWhile_append]
  split
  · rename_i hnil
    -- nothing but the first character is left
    rw [trimEnd, List.isEmpty_iff.mp hnil, List.dropWhile_cons, hc]
    rfl
  · rw [List.reverse_append, trimEnd]
    rfl

/-- Trimming starts at the first character that is not blank. -/
lemma trim_blanks_cons {a : List Char} {c : Char} (ha : ∀ d ∈ a, isBlank d = true)
    (hc : isBlank c = false) (cs : List Char) : trim (a ++ c :: cs) = c :: trimEnd cs := by
  have hhead : ∀ d ∈ (c :: cs).head?, isBlank d = false := by simpa using hc
  rw [trim, List.dropWhile_append_of_pos ha, dropWhile_isBlank_of_head hhead, trimEnd_cons hc]

/-- Nothing is left of a text of blanks. -/
lemma trim_blanks {b : List Char} (hb : ∀ c ∈ b, isBlank c = true) : trim b = [] := by
  rw [trim, List.dropWhile_eq_nil_iff.mpr hb]
  rfl

/-- Trimming finds the text that blanks surround. -/
theorem trim_surrounded {a cs b : List Char} (ha : ∀ c ∈ a, isBlank c = true)
    (hb : ∀ c ∈ b, isBlank c = true) (h : IsTrimmed cs) : trim (a ++ (cs ++ b)) = cs := by
  cases cs with
  | nil =>
    apply trim_blanks
    intro c hc
    exact (List.mem_append.mp hc).elim (ha c) (hb c)
  | cons c cs =>
    have hhead : ∀ d ∈ (c :: cs ++ b).head?, isBlank d = false := h.head
    rw [trim, List.dropWhile_append_of_pos ha, dropWhile_isBlank_of_head hhead,
      trimEnd_append_blanks hb h.last]

/-! ## The longest blank ends -/

/-- Blanks at the start of a text, as many as there are. -/
structure IsBlankStart (gap cs : List Char) : Prop where
  starts : gap <+: cs
  isBlank : ∀ c ∈ gap, Text.isBlank c = true
  longest : ∀ gap', gap' <+: cs → (∀ c ∈ gap', Text.isBlank c = true) →
    gap'.length ≤ gap.length

/-- Blanks at the end of a text, as many as there are. -/
structure IsBlankEnd (gap cs : List Char) : Prop where
  ends : gap <:+ cs
  isBlank : ∀ c ∈ gap, Text.isBlank c = true
  longest : ∀ gap', gap' <:+ cs → (∀ c ∈ gap', Text.isBlank c = true) →
    gap'.length ≤ gap.length

/-- What is left of a text without its longest blank start, and then without the longest blank end
of the rest. -/
def WithoutBlankEnds (cs text : List Char) : Prop :=
  ∃ front back, cs = front ++ (text ++ back) ∧ IsBlankStart front cs ∧
    IsBlankEnd back (text ++ back)

/-- A blank end is a blank start, read from the other side. -/
lemma IsBlankStart.reverse {gap cs : List Char} (h : IsBlankStart gap cs) :
    IsBlankEnd gap.reverse cs.reverse where
  ends := List.reverse_suffix.mpr h.starts
  isBlank := by
    intro c hc
    exact h.isBlank c (List.mem_reverse.mp hc)
  longest := by
    intro gap' hends hblank
    have hlength : gap'.reverse.length ≤ gap.length := by
      apply h.longest
      · rw [← List.reverse_suffix, List.reverse_reverse]
        exact hends
      · intro c hc
        exact hblank c (List.mem_reverse.mp hc)
    rwa [List.length_reverse] at hlength ⊢

lemma isBlankStart_takeWhile (cs : List Char) :
    IsBlankStart (cs.takeWhile Text.isBlank) cs where
  starts := List.takeWhile_prefix _
  isBlank := by
    intro c hc
    exact List.mem_takeWhile_imp hc
  longest := by
    rintro gap ⟨rest, rfl⟩ hblank
    rw [List.takeWhile_append_of_pos hblank, List.length_append]
    exact Nat.le_add_right _ _

/-- A blank start that could be longer is none. -/
lemma IsBlankStart.head {front rest : List Char} (h : IsBlankStart front (front ++ rest)) :
    ∀ c ∈ rest.head?, Text.isBlank c = false := by
  intro c hc
  obtain ⟨rest, rfl⟩ := List.head?_eq_some_iff.mp hc
  by_contra hblank
  rw [Bool.not_eq_false] at hblank
  have hlonger : ∀ d ∈ front ++ [c], Text.isBlank d = true := by
    intro d hd
    rcases List.mem_append.mp hd with hd | hd
    · exact h.isBlank d hd
    · rwa [List.mem_singleton.mp hd]
  have hle := h.longest (front ++ [c]) ⟨rest, (List.append_cons front c rest).symm⟩ hlonger
  rw [List.length_append, List.length_singleton] at hle
  omega

/-- A blank end that could be longer is none either. -/
lemma IsBlankEnd.last {text back : List Char} (h : IsBlankEnd back (text ++ back)) :
    ∀ c ∈ text.getLast?, Text.isBlank c = false := by
  intro c hc
  obtain ⟨text, rfl⟩ := List.getLast?_eq_some_iff.mp hc
  by_contra hblank
  rw [Bool.not_eq_false] at hblank
  have hlonger : ∀ d ∈ c :: back, Text.isBlank d = true := by
    intro d hd
    rcases List.mem_cons.mp hd with rfl | hd
    · exact hblank
    · exact h.isBlank d hd
  have hle := h.longest (c :: back) ⟨text, List.append_cons text c back⟩ hlonger
  rw [List.length_cons] at hle
  omega

/-- Trimming takes away the longest blank ends, and nothing else does. -/
theorem withoutBlankEnds_iff {cs text : List Char} :
    WithoutBlankEnds cs text ↔ text = trim cs := by
  constructor
  · rintro ⟨front, back, rfl, hfront, hback⟩
    have htrimmed : IsTrimmed text := by
      refine ⟨fun c hc => hfront.head c ?_, hback.last⟩
      rw [List.head?_append, Option.mem_def.mp hc]
      rfl
    exact (trim_surrounded hfront.isBlank hback.isBlank htrimmed).symm
  · rintro rfl
    refine ⟨cs.takeWhile Text.isBlank,
      ((cs.dropWhile Text.isBlank).reverse.takeWhile Text.isBlank).reverse, ?_,
      isBlankStart_takeWhile cs, ?_⟩
    · rw [trim, trimEnd, ← List.reverse_append, List.takeWhile_append_dropWhile,
        List.reverse_reverse, List.takeWhile_append_dropWhile]
    -- the end is trimmed by reversing the text, so its blanks are a blank start read backwards
    · have hend := (isBlankStart_takeWhile (cs.dropWhile Text.isBlank).reverse).reverse
      rw [List.reverse_reverse] at hend
      rwa [trim, trimEnd, ← List.reverse_append, List.takeWhile_append_dropWhile,
        List.reverse_reverse]

/-- Trimming adds nothing to a text. -/
lemma trim_subset (cs : List Char) : trim cs ⊆ cs := by
  obtain ⟨front, back, hcs, _⟩ := withoutBlankEnds_iff.mpr (Eq.refl (trim cs))
  intro c hc
  rw [hcs]
  exact List.mem_append_right front (List.mem_append_left back hc)

/-- Nor does it leave a blank at an end. -/
theorem isTrimmed_trim (cs : List Char) : IsTrimmed (trim cs) := by
  obtain ⟨front, back, hcs, hfront, hback⟩ := withoutBlankEnds_iff.mpr (Eq.refl (trim cs))
  refine ⟨fun c hc => ?_, hback.last⟩
  rw [hcs] at hfront
  apply hfront.head c
  rw [List.head?_append, Option.mem_def.mp hc]
  rfl

/-- Blanks at the end of a text do not matter to what is left of it. -/
theorem trim_append_blanks {b : List Char} (hb : ∀ c ∈ b, isBlank c = true) (cs : List Char) :
    trim (cs ++ b) = trim cs := by
  obtain ⟨front, back, hcs, hfront, hback⟩ := withoutBlankEnds_iff.mpr (Eq.refl (trim cs))
  have hend : ∀ c ∈ back ++ b, isBlank c = true := by
    intro c hc
    exact (List.mem_append.mp hc).elim (hback.isBlank c) (hb c)
  have hsplit : cs ++ b = front ++ (trim cs ++ (back ++ b)) :=
    calc cs ++ b = front ++ (trim cs ++ back) ++ b := congrArg (· ++ b) hcs
      _ = front ++ (trim cs ++ (back ++ b)) := by rw [List.append_assoc, List.append_assoc]
  rw [hsplit]
  exact trim_surrounded hfront.isBlank hend (isTrimmed_trim cs)

/-- There is nothing to trim from a text without blanks at its ends. -/
lemma IsTrimmed.trim_eq {cs : List Char} (h : IsTrimmed cs) : trim cs = cs := by
  have htrim := trim_surrounded (a := []) (b := []) (by simp) (by simp) h
  rwa [List.nil_append, List.append_nil] at htrim

theorem trim_trim (cs : List Char) : trim (trim cs) = trim cs :=
  (isTrimmed_trim cs).trim_eq

/-- Only blanks are trimmed to nothing. -/
theorem trim_eq_nil_iff {cs : List Char} : trim cs = [] ↔ ∀ c ∈ cs, isBlank c = true := by
  constructor
  · intro h
    obtain ⟨front, back, hcs, hfront, hback⟩ := withoutBlankEnds_iff.mpr h.symm
    intro c hc
    rw [hcs, List.nil_append] at hc
    exact (List.mem_append.mp hc).elim (hfront.isBlank c) (hback.isBlank c)
  · exact trim_blanks

/-- Something is left by trimming exactly if there is something else than blanks. -/
lemma trim_ne_nil_iff {cs : List Char} : trim cs ≠ [] ↔ ∃ c ∈ cs, isBlank c = false := by
  rw [Ne, trim_eq_nil_iff]
  simp

/-! ## The words of a trimmed text -/

/-- Words do not run together if the second text starts with a blank. -/
lemma words_append_of_blank_head {b : List Char} (h : ∀ c ∈ b.head?, isBlank c = true)
    (a : List Char) : words (a ++ b) = words a ++ words b := by
  cases b with
  | nil => rw [List.append_nil, show words [] = [] from rfl, List.append_nil]
  | cons c b =>
    have hc : isBlank c = true := h c rfl
    rw [words_append_blank hc, words_blank_cons hc]

/-- Nor do they if the first text ends with one. -/
lemma words_append_of_blank_last {a : List Char} (h : ∀ c ∈ a.getLast?, isBlank c = true)
    (b : List Char) : words (a ++ b) = words a ++ words b := by
  cases hlast : a.getLast? with
  | none =>
    rw [List.getLast?_eq_none_iff.mp hlast]
    rfl
  | some c =>
    obtain ⟨a, rfl⟩ := List.getLast?_eq_some_iff.mp hlast
    have hc : isBlank c = true := h c hlast
    rw [List.append_assoc, List.singleton_append, words_append_blank hc, words_append_blank hc]
    rw [show words [] = [] from rfl, List.append_nil]

/-- Blanks hold no words, so what is left of a text when it is trimmed has all its words. -/
theorem words_trim (cs : List Char) : words (trim cs) = words cs := by
  obtain ⟨front, back, hcs, hfront, hback⟩ := withoutBlankEnds_iff.mpr (Eq.refl (trim cs))
  have hblank : words back = [] := by
    have hgap := words_blanks_append hback.isBlank []
    rwa [List.append_nil] at hgap
  have hhead : ∀ c ∈ back.head?, isBlank c = true := by
    intro c hc
    exact hback.isBlank c (List.mem_of_mem_head? hc)
  calc words (trim cs) = words (front ++ (trim cs ++ back)) := by
        rw [words_blanks_append hfront.isBlank, words_append_of_blank_head hhead, hblank,
          List.append_nil]
    _ = words cs := congrArg words hcs.symm

/-- A text that does not start with a blank starts with a word, and what follows is set off from
it. -/
lemma exists_word_append {cs : List Char} (hne : cs ≠ [])
    (h : ∀ c ∈ cs.head?, isBlank c = false) :
    ∃ (w : Word) (rest : List Char), cs = w.chars ++ rest ∧
      ∀ c ∈ rest.head?, isBlank c = true := by
  -- the text is cut where the next blank is, or where it ends
  have hword : cs.takeWhile (!isBlank ·) ≠ [] := by
    obtain ⟨c, cs, rfl⟩ := List.exists_cons_of_ne_nil hne
    rw [List.takeWhile_cons_of_pos (by simpa using h c rfl)]
    exact List.cons_ne_nil _ _
  have hnot : ∀ c ∈ cs.takeWhile (!isBlank ·), isBlank c = false := by
    intro c hc
    simpa using List.mem_takeWhile_imp hc
  refine ⟨⟨_, hword, hnot⟩, cs.dropWhile (!isBlank ·), List.takeWhile_append_dropWhile.symm, ?_⟩
  intro c hc
  have hhead := List.head?_dropWhile_not (!isBlank ·) cs
  rw [Option.mem_def.mp hc] at hhead
  simpa using hhead

/-- A text that does not start with a blank starts with its first word. -/
theorem exists_first_word {cs : List Char} (hne : cs ≠ [])
    (h : ∀ c ∈ cs.head?, isBlank c = false) : ∃ w ws, words cs = w :: ws ∧ w <+: cs := by
  obtain ⟨w, rest, rfl, hrest⟩ := exists_word_append hne h
  refine ⟨w.chars, words rest, ?_, List.prefix_append _ _⟩
  rw [words_append_of_blank_head hrest, w.words_chars, List.singleton_append]

/-- A text that does not end with a blank ends with its last word. -/
theorem exists_last_word {cs : List Char} (hne : cs ≠ [])
    (h : ∀ c ∈ cs.getLast?, isBlank c = false) : ∃ ws w, words cs = ws ++ [w] ∧ w <:+ cs := by
  -- the same cut, before the last word
  have hword : words (cs.rtakeWhile (!isBlank ·)) = [cs.rtakeWhile (!isBlank ·)] := by
    apply words_of_not_isBlank
    · rw [Ne, List.rtakeWhile_eq_nil_iff]
      intro hnil
      have hlast := h _ (List.getLast?_eq_getLast_of_ne_nil hne)
      exact hnil hne (by simpa using hlast)
    · intro c hc
      simpa using List.mem_rtakeWhile_imp hc
  have hrest : ∀ c ∈ (cs.rdropWhile (!isBlank ·)).getLast?, isBlank c = true := by
    intro c hc
    obtain ⟨hrest, hlast⟩ := List.mem_getLast?_eq_getLast hc
    have hnot := List.rdropWhile_last_not (!isBlank ·) cs hrest
    rw [← hlast] at hnot
    simpa using hnot
  refine ⟨words (cs.rdropWhile (!isBlank ·)), cs.rtakeWhile (!isBlank ·), ?_,
    List.rtakeWhile_suffix _ _⟩
  calc words cs = words (cs.rdropWhile (!isBlank ·) ++ cs.rtakeWhile (!isBlank ·)) := by
        rw [List.rdropWhile_append_rtakeWhile]
    _ = words (cs.rdropWhile (!isBlank ·)) ++ [cs.rtakeWhile (!isBlank ·)] := by
        rw [words_append_of_blank_last hrest, hword]

/-! ## What a text consists of -/

/-- The words stand in the text in this order, and all else in it is blanks. What follows a word is
nothing or starts with a blank, so that no two words run together. -/
inductive ConsistsOf : List Char → List Word → Prop
  | blanks {gap : List Char} (h : ∀ c ∈ gap, isBlank c = true) : ConsistsOf gap []
  | word {gap rest : List Char} {ws : List Word} (h : ∀ c ∈ gap, isBlank c = true) (w : Word)
      (apart : ∀ c ∈ rest.head?, isBlank c = true) (hrest : ConsistsOf rest ws) :
      ConsistsOf (gap ++ (w.chars ++ rest)) (w :: ws)

/-- Whatever words a text consists of, splitting finds them. -/
theorem ConsistsOf.words_eq {cs : List Char} {ws : List Word} (h : ConsistsOf cs ws) :
    words cs = ws.map Word.chars := by
  induction h with
  | blanks h =>
    have hgap := words_blanks_append h []
    rwa [List.append_nil] at hgap
  | word h w apart hrest ih =>
    rw [words_blanks_append h, words_append_of_blank_head apart, w.words_chars, ih]
    rfl

/-- A text consists of words in one way. -/
theorem ConsistsOf.unique {cs : List Char} {ws ws' : List Word} (h : ConsistsOf cs ws)
    (h' : ConsistsOf cs ws') : ws = ws' :=
  List.map_injective_iff.mpr (fun _ _ => Word.ext) (h.words_eq.symm.trans h'.words_eq)

/-- Every text consists of some words. -/
theorem exists_consistsOf (cs : List Char) : ∃ ws, ConsistsOf cs ws := by
  -- by the length of the text, since its first word is taken off whole
  induction hn : cs.length using Nat.strongRecOn generalizing cs with
  | _ n ih =>
    have hgap : ∀ c ∈ cs.takeWhile isBlank, isBlank c = true := by
      intro c hc
      exact List.mem_takeWhile_imp hc
    have hsplit : cs = cs.takeWhile isBlank ++ cs.dropWhile isBlank :=
      List.takeWhile_append_dropWhile.symm
    by_cases hrest : cs.dropWhile isBlank = []
    · rw [hrest, List.append_nil] at hsplit
      rw [hsplit]
      exact ⟨[], .blanks hgap⟩
    · have hhead : ∀ c ∈ (cs.dropWhile isBlank).head?, isBlank c = false := by
        intro c hc
        have hnot := List.head?_dropWhile_not isBlank cs
        rw [Option.mem_def.mp hc] at hnot
        simpa using hnot
      obtain ⟨w, rest, hword, happart⟩ := exists_word_append hrest hhead
      have hshorter : rest.length < n := by
        have hpos : 0 < w.chars.length := List.length_pos_iff.mpr w.ne_nil
        have hlength := congrArg List.length hsplit
        rw [hword, List.length_append, List.length_append] at hlength
        omega
      obtain ⟨ws, hws⟩ := ih _ hshorter _ rfl
      rw [hsplit, hword]
      exact ⟨w :: ws, .word hgap w happart hws⟩

end HackFrontEnd.Text
