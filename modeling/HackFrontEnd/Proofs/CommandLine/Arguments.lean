import HackFrontEnd.CommandLine.Options
import HackFrontEnd.Proofs.FirstFailure
import Mathlib.Tactic.SplitIfs

/-!
# What is read in arguments

* `mem_of_readArguments`: reading arguments invents nothing. An operand is one of the arguments, and
  the value of an option is one of them or the end of one;
* `eraseDups_filter`: options that do not count can be left out before repetitions are.
-/

namespace HackFrontEnd.CommandLine

variable {α : Type} {specs : List (OptionSpec α)}

/-- Every value among given options ends one of some texts. -/
def ValuesEnd (texts : List (List Char)) (options : List (Given α)) : Prop :=
  ∀ given ∈ options, ∀ value ∈ given.value, ∃ text ∈ texts, value.toList <:+ text

lemma valuesEnd_nil (texts : List (List Char)) : ValuesEnd texts ([] : List (Given α)) := by
  intro _ hgiven
  exact absurd hgiven List.not_mem_nil

lemma ValuesEnd.append {texts : List (List Char)} {xs ys : List (Given α)}
    (hx : ValuesEnd texts xs) (hy : ValuesEnd texts ys) : ValuesEnd texts (xs ++ ys) := by
  intro given hgiven
  exact (List.mem_append.mp hgiven).elim (hx given) (hy given)

lemma ValuesEnd.cons {texts : List (List Char)} {given : Given α} {options : List (Given α)}
    (h : ∀ value ∈ given.value, ∃ text ∈ texts, value.toList <:+ text)
    (hrest : ValuesEnd texts options) : ValuesEnd texts (given :: options) := by
  intro other hother
  rcases List.mem_cons.mp hother with rfl | hother
  · exact h
  · exact hrest other hother

/-- The end of an end is an end. -/
lemma ValuesEnd.mono {texts texts' : List (List Char)} {options : List (Given α)}
    (h : ∀ text ∈ texts, ∃ text' ∈ texts', text <:+ text') (hvalues : ValuesEnd texts options) :
    ValuesEnd texts' options := by
  intro given hgiven value hvalue
  obtain ⟨text, htext, hends⟩ := hvalues given hgiven value hvalue
  obtain ⟨text', htext', hends'⟩ := h text htext
  exact ⟨text', htext', hends.trans hends'⟩

lemma ValuesEnd.of_subset {texts texts' : List (List Char)} {options : List (Given α)}
    (h : texts ⊆ texts') (hvalues : ValuesEnd texts options) : ValuesEnd texts' options :=
  hvalues.mono fun text htext => ⟨text, h htext, List.suffix_rfl⟩

/-- Among letters after one dash, a value is all that follows the letter of its option. -/
lemma valuesEnd_readShort {arg : List Char} {reading : Reading α}
    (h : readShort specs arg = .ok reading) : ValuesEnd [arg] reading.complete := by
  induction arg generalizing reading with
  | nil =>
    rw [← Except.ok.inj h]
    exact valuesEnd_nil _
  | cons c cs ih =>
    have hcs : ∀ text ∈ [cs], ∃ text' ∈ [c :: cs], text <:+ text' := by
      intro text htext
      rw [List.mem_singleton.mp htext]
      exact ⟨c :: cs, List.mem_singleton_self _, List.suffix_cons c cs⟩
    rw [readShort] at h
    split at h
    · cases h
    · rename_i spec _
      split_ifs at h
      · -- a flag, and the others after it
        obtain ⟨rest, hrest, hpure⟩ := bind_eq_ok_iff.mp h
        rw [← Except.ok.inj hpure]
        exact .cons (fun value hvalue => by contradiction) ((ih hrest).mono hcs)
      · rw [← Except.ok.inj h]
        exact valuesEnd_nil _
      · rw [← Except.ok.inj h]
        refine .cons ?_ (valuesEnd_nil _)
        intro value hvalue
        rw [← Option.some.inj hvalue, String.toList_ofList]
        exact ⟨c :: cs, List.mem_singleton_self _, List.suffix_cons c cs⟩

/-- What follows the equals sign of an argument ends it. -/
lemma suffix_of_dropWhile {arg value : List Char} {c : Char}
    (h : arg.dropWhile (· != '=') = c :: value) : value <:+ arg := by
  have hdrop := List.dropWhile_suffix (l := arg) (· != '=')
  rw [h] at hdrop
  exact (List.suffix_cons c value).trans hdrop

/-- A value that comes with its option in one argument ends that argument. -/
lemma valuesEnd_readOption {arg : List Char} {reading : Reading α}
    (h : readOption specs arg = .ok reading) : ValuesEnd [arg] reading.complete := by
  unfold readOption at h
  extract_lets name value at h
  have hvalue : ∀ v ∈ value, ∃ text ∈ [arg], v.toList <:+ text := by
    intro v hv
    refine ⟨arg, List.mem_singleton_self _, ?_⟩
    simp only [value] at hv
    split at hv
    · contradiction
    · rename_i heq
      rw [← Option.some.inj hv, String.toList_ofList]
      exact suffix_of_dropWhile heq
  split at h
  · rename_i heq
    split_ifs at h
    rw [← Except.ok.inj h]
    exact .cons (heq ▸ hvalue) (valuesEnd_nil _)
  · split_ifs at h
    · rw [← Except.ok.inj h]
      exact valuesEnd_nil _
    · rw [← Except.ok.inj h]
      exact .cons (fun v hv => by cases hv) (valuesEnd_nil _)
  · split_ifs at h
    refine (valuesEnd_readShort h).mono fun text htext => ?_
    rw [List.mem_singleton.mp htext]
    exact ⟨arg, List.mem_singleton_self _, List.tail_suffix arg⟩

/-- Reading arguments invents nothing. -/
theorem mem_of_readArguments {args : List String} {a : Arguments α}
    (h : readArguments specs args = .ok a) :
    (∀ operand ∈ a.operands, operand ∈ args) ∧
      ValuesEnd (args.map String.toList) a.options := by
  -- the cases are those of reading: no argument, two dashes, an operand, an option that is
  -- complete, and one that takes the next argument
  fun_induction readArguments specs args generalizing a with
  | case1 =>
    rw [← Except.ok.inj h]
    exact ⟨fun operand hoperand => hoperand, valuesEnd_nil _⟩
  | case2 args =>
    -- whatever follows two dashes is an operand
    rw [← Except.ok.inj h]
    exact ⟨fun operand hoperand => List.mem_cons_of_mem _ hoperand, valuesEnd_nil _⟩
  | case3 arg args _ _ ih =>
    obtain ⟨rest, hrest, hpure⟩ := bind_eq_ok_iff.mp h
    obtain ⟨hoperands, hvalues⟩ := ih hrest
    rw [← Except.ok.inj hpure]
    refine ⟨fun operand hoperand => ?_, hvalues.of_subset (List.subset_cons_self _ _)⟩
    rcases List.mem_cons.mp hoperand with rfl | hoperand
    · exact List.mem_cons_self
    · exact List.mem_cons_of_mem arg (hoperands operand hoperand)
  | case4 => cases h
  | case5 arg args _ _ complete hreading ih =>
    obtain ⟨rest, hrest, hpure⟩ := bind_eq_ok_iff.mp h
    obtain ⟨hoperands, hvalues⟩ := ih hrest
    rw [← Except.ok.inj hpure]
    refine ⟨fun operand hoperand => List.mem_cons_of_mem arg (hoperands operand hoperand), ?_⟩
    have hcomplete : ValuesEnd [arg.toList] complete := valuesEnd_readOption hreading
    exact .append (hcomplete.of_subset (by simp)) (hvalues.of_subset (List.subset_cons_self _ _))
  | case6 => cases h
  | case7 arg _ _ complete option name hreading value args ih =>
    obtain ⟨rest, hrest, hpure⟩ := bind_eq_ok_iff.mp h
    obtain ⟨hoperands, hvalues⟩ := ih hrest
    rw [← Except.ok.inj hpure]
    refine ⟨fun operand hoperand => ?_, ?_⟩
    · exact List.mem_cons_of_mem arg (List.mem_cons_of_mem value (hoperands operand hoperand))
    · have hcomplete : ValuesEnd [arg.toList] complete := valuesEnd_readOption hreading
      refine .append (hcomplete.of_subset (by simp)) (.cons ?_ (hvalues.of_subset (by simp)))
      intro v hv
      rw [← Option.some.inj hv]
      exact ⟨value.toList, by simp, List.suffix_rfl⟩

/-! ## Options given once -/

section Options

variable [BEq α] [LawfulBEq α]

/-- Leaving out what does not count and leaving out repetitions can be done in either order. -/
lemma eraseDups_filter (p : α → Bool) (l : List α) :
    (l.filter p).eraseDups = l.eraseDups.filter p := by
  -- by the length of the list: what repeats the first member is gone before the rest is looked at
  match l with
  | [] => rfl
  | a :: as =>
    have hrest := eraseDups_filter p (as.filter (!· == a))
    rw [List.eraseDups_cons, List.filter_cons, List.filter_cons, ← hrest]
    split
    · rw [List.eraseDups_cons, List.filter_filter, List.filter_filter]
      simp only [Bool.and_comm]
    · rename_i hp
      -- what does not count is gone together with its repetitions
      have hkept : (as.filter (!· == a)).filter p = as.filter p := by
        rw [List.filter_filter]
        apply List.filter_congr
        intro x _
        by_cases hx : x = a
        · simp [hx, hp]
        · simp [hx]
      rw [hkept]
termination_by l.length
decreasing_by
  rw [List.length_cons]
  exact Nat.lt_succ_of_le (List.length_filter_le _ _)

end Options

end HackFrontEnd.CommandLine
