import HackFrontEnd.Source
import HackFrontEnd.Proofs.Text.Lines
import HackFrontEnd.Proofs.Text.Words
import Mathlib.Data.List.Forall2

/-!
# Line ends

Lines end with a line feed, or with a pair of a carriage return and a line feed. Cleaning sees the
carriage return of a pair as a blank at the end of its line, and so it does not matter whether line
ends are made uniform beforehand:

* `lines_unifyLineEnds`: with uniform line ends, lines lose at most a carriage return at their end;
* `clean_unifyLineEnds`: so cleaning finds the same instructions on the same lines;
* `unifyLineEnds_withReturns`: a text with pairs is made into the one with line feeds;
* `return_not_mem_unifyLineEnds`, `lines_unifyLineEnds_of_lone_return`: no carriage return is left
  when line ends are uniform, and one that stands alone has become the end of a line.

Without uniform line ends, a carriage return that stands alone is a blank like any other.
-/

namespace HackFrontEnd.Source

open Text

/-! ## Pairs of carriage return and line feed -/

/-- Every carriage return is directly followed by a line feed. -/
def ReturnsPaired (cs : List Char) : Prop :=
  ∀ a b, cs = a ++ '\r' :: b → b.head? = some '\n'

lemma ReturnsPaired.head {cs : List Char} (h : ReturnsPaired ('\r' :: cs)) :
    cs.head? = some '\n' :=
  h [] cs rfl

lemma ReturnsPaired.tail {c : Char} {cs : List Char} (h : ReturnsPaired (c :: cs)) :
    ReturnsPaired cs := by
  rintro a b rfl
  exact h (c :: a) b rfl

/-- One more character leaves carriage returns paired, if it is not one that is left alone. -/
lemma ReturnsPaired.cons {c : Char} {cs : List Char} (hc : c = '\r' → cs.head? = some '\n')
    (h : ReturnsPaired cs) : ReturnsPaired (c :: cs) := by
  intro a b hab
  cases a with
  | nil =>
    obtain ⟨hreturn, hrest⟩ := List.cons.inj hab
    rw [← hrest]
    exact hc hreturn
  | cons d a => exact h a b (List.cons.inj hab).2

/-! ## Lines with and without carriage returns -/

/-- A change to the first lines that keeps to a relation keeps it for all lines. -/
lemma forall₂_modifyHead {R : List Char → List Char → Prop} {f : List Char → List Char}
    (hf : ∀ line line', R line line' → R (f line) (f line')) {ls ls' : List (List Char)}
    (h : List.Forall₂ R ls ls') : List.Forall₂ R (ls.modifyHead f) (ls'.modifyHead f) := by
  cases h with
  | nil => exact .nil
  | cons hline hrest => exact .cons (hf _ _ hline) hrest

/-- Making line ends uniform takes at most a carriage return away from the end of a line. -/
theorem lines_unifyLineEnds {cs : List Char} (h : ReturnsPaired cs) :
    List.Forall₂ (fun line line' => line = line' ∨ line = line' ++ ['\r'])
      (lines cs) (lines (unifyLineEnds cs)) := by
  fun_induction unifyLineEnds cs with
  | case1 => exact .cons (.inl rfl) .nil
  | case2 cs ih =>
    have hlines : lines ('\r' :: '\n' :: cs) = ['\r'] :: lines cs := by
      rw [lines_cons (by decide), lines_newline_cons]
      rfl
    rw [hlines, lines_newline_cons]
    exact .cons (.inr rfl) (ih h.tail.tail)
  -- a carriage return on its own is ruled out
  | case3 cs hlone =>
    obtain ⟨rest, rfl⟩ := List.head?_eq_some_iff.mp h.head
    exact absurd rfl (hlone rest)
  | case4 c cs _ hreturn ih =>
    by_cases hc : c = '\n'
    · rw [hc, lines_newline_cons, lines_newline_cons]
      exact .cons (.inl rfl) (ih h.tail)
    · rw [lines_cons hc, lines_cons hc]
      apply forall₂_modifyHead _ (ih h.tail)
      rintro line line' (rfl | rfl)
      · exact .inl rfl
      · exact .inr rfl

/-- Once they are trimmed, the lines are the same. -/
lemma map_trim_lines_unifyLineEnds {cs : List Char} (h : ReturnsPaired cs) :
    (lines cs).map trim = (lines (unifyLineEnds cs)).map trim := by
  rw [← List.forall₂_eq_eq_eq, List.forall₂_map_left_iff, List.forall₂_map_right_iff]
  refine (lines_unifyLineEnds h).imp ?_
  rintro line line' (rfl | rfl)
  · rfl
  · apply trim_append_blanks
    intro c hc
    rw [List.mem_singleton.mp hc]
    decide

/-! ## Cleaning -/

/-- Cleaning looks at trimmed lines only. -/
lemma clean_eq_cleanFrom_trim (marker source : String) :
    clean marker source = cleanFrom marker 1 ((lines source.toList).map trim) := by
  have htrim : ∀ line n,
      instructionOn? marker (trim line, n) = instructionOn? marker (line, n) := by
    intro line n
    rw [instructionOn?, instructionOn?, trim_trim]
  rw [clean, cleanFrom, cleanFrom, List.zipIdx_map, List.filterMap_map]
  apply List.filterMap_congr
  rintro ⟨line, n⟩ _
  exact (htrim line n).symm

/-- Cleaning finds the same instructions, on the same lines, whether or not line ends are made
uniform beforehand. -/
theorem clean_unifyLineEnds {cs : List Char} (h : ReturnsPaired cs) (marker : String) :
    clean marker (String.ofList (unifyLineEnds cs)) = clean marker (String.ofList cs) := by
  rw [clean_eq_cleanFrom_trim, clean_eq_cleanFrom_trim, String.toList_ofList, String.toList_ofList,
    map_trim_lines_unifyLineEnds h]

-- a carriage return that stands alone ends a line in one case and is a blank in the other
example : clean "/" "add\rsub" = [(1, "add\rsub")] ∧
    clean "/" (String.ofList (unifyLineEnds "add\rsub".toList)) = [(1, "add"), (2, "sub")] := by
  decide +kernel

/-! ## Carriage returns that stand alone -/

lemma unifyLineEnds_cons {c : Char} (hc : '\r' ≠ c) (cs : List Char) :
    unifyLineEnds (c :: cs) = c :: unifyLineEnds cs := by
  rw [unifyLineEnds]
  · exact fun _ h _ => hc h.symm
  · exact hc.symm

/-- A carriage return without a line feed behind it becomes one. -/
lemma unifyLineEnds_return_cons {cs : List Char} (h : cs.head? ≠ some '\n') :
    unifyLineEnds ('\r' :: cs) = '\n' :: unifyLineEnds cs := by
  rw [unifyLineEnds]
  rintro rest rfl
  exact h rfl

/-- What is in front of a lone carriage return is made uniform by itself, and so is what is behind
it. -/
lemma unifyLineEnds_append_return (a : List Char) {b : List Char} (h : b.head? ≠ some '\n') :
    unifyLineEnds (a ++ '\r' :: b) = unifyLineEnds a ++ '\n' :: unifyLineEnds b := by
  fun_induction unifyLineEnds a with
  | case1 => exact unifyLineEnds_return_cons h
  | case2 cs ih =>
    rw [List.cons_append, List.cons_append, unifyLineEnds, ih, List.cons_append]
  -- this one is not paired, and does not become so by what is behind it
  | case3 cs hlone ih =>
    have hhead : (cs ++ '\r' :: b).head? ≠ some '\n' := by
      cases cs with
      | nil => exact (by decide : some '\r' ≠ some '\n')
      | cons d cs =>
        intro hd
        exact hlone cs (congrArg (· :: cs) (Option.some.inj hd))
    rw [List.cons_append, unifyLineEnds_return_cons hhead, ih, List.cons_append]
  | case4 c cs _ hreturn ih =>
    have hc : '\r' ≠ c := fun heq => hreturn heq.symm
    rw [List.cons_append, unifyLineEnds_cons hc, ih, List.cons_append]

/-- Once line ends are uniform, a carriage return that stood alone ends a line. -/
theorem lines_unifyLineEnds_of_lone_return (a : List Char) {b : List Char}
    (h : b.head? ≠ some '\n') :
    lines (unifyLineEnds (a ++ '\r' :: b)) =
      lines (unifyLineEnds a) ++ lines (unifyLineEnds b) := by
  rw [unifyLineEnds_append_return a h, lines_append_newline]

/-- Once line ends are uniform, no carriage return is left. -/
theorem return_not_mem_unifyLineEnds (cs : List Char) : '\r' ∉ unifyLineEnds cs := by
  fun_induction unifyLineEnds cs with
  | case1 => exact List.not_mem_nil
  | case2 cs ih | case3 cs _ ih =>
    exact List.not_mem_cons_of_ne_of_not_mem (by decide) ih
  | case4 c cs _ hreturn ih =>
    exact List.not_mem_cons_of_ne_of_not_mem (fun heq => hreturn heq.symm) ih

/-! ## Texts with line feeds and texts with pairs -/

/-- The text with a carriage return in front of every line feed. -/
def withReturns (cs : List Char) : List Char :=
  cs.flatMap fun c => if c = '\n' then ['\r', '\n'] else [c]

lemma withReturns_newline_cons (cs : List Char) :
    withReturns ('\n' :: cs) = '\r' :: '\n' :: withReturns cs := rfl

lemma withReturns_cons {c : Char} (hc : c ≠ '\n') (cs : List Char) :
    withReturns (c :: cs) = c :: withReturns cs := by
  rw [withReturns, List.flatMap_cons, if_neg hc]
  rfl

/-- A text without carriage returns has uniform line ends. -/
lemma unifyLineEnds_of_not_mem {cs : List Char} (h : '\r' ∉ cs) : unifyLineEnds cs = cs := by
  induction cs with
  | nil => rfl
  | cons c cs ih =>
    obtain ⟨hc, hcs⟩ := List.ne_and_not_mem_of_not_mem_cons h
    rw [unifyLineEnds_cons hc, ih hcs]

/-- Putting carriage returns into a text without any, and making line ends uniform, gives the text
back. -/
theorem unifyLineEnds_withReturns {cs : List Char} (h : '\r' ∉ cs) :
    unifyLineEnds (withReturns cs) = cs := by
  induction cs with
  | nil => rfl
  | cons c cs ih =>
    obtain ⟨hc, hcs⟩ := List.ne_and_not_mem_of_not_mem_cons h
    by_cases hnewline : c = '\n'
    · rw [hnewline, withReturns_newline_cons, unifyLineEnds, ih hcs]
    · rw [withReturns_cons hnewline, unifyLineEnds_cons hc, ih hcs]

/-- The carriage returns that were put in are paired. -/
lemma returnsPaired_withReturns {cs : List Char} (h : '\r' ∉ cs) :
    ReturnsPaired (withReturns cs) := by
  -- The induction is on the text without carriage returns. Each of its line feeds brings in a pair.
  induction cs with
  | nil =>
    intro a b hab
    have hmem : '\r' ∈ withReturns [] := by
      rw [hab]
      exact List.mem_append_right a List.mem_cons_self
    exact absurd hmem List.not_mem_nil
  | cons c cs ih =>
    obtain ⟨hc, hcs⟩ := List.ne_and_not_mem_of_not_mem_cons h
    by_cases hnewline : c = '\n'
    · rw [hnewline, withReturns_newline_cons]
      have hrest : ReturnsPaired ('\n' :: withReturns cs) :=
        .cons (fun heq => absurd heq (by decide)) (ih hcs)
      exact .cons (fun _ => rfl) hrest
    · rw [withReturns_cons hnewline]
      exact .cons (fun heq => absurd heq.symm hc) (ih hcs)

end HackFrontEnd.Source
