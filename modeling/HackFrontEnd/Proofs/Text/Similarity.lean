import HackFrontEnd.Text.Similarity
import Mathlib.Algebra.Order.Field.Rat
import Mathlib.Data.List.Sort
import Mathlib.Data.Prod.Lex
import Mathlib.Data.String.Basic

/-!
# How alike two texts are

Scores as numbers, and what the search for close matches finds:

* `isShared_longestBlock`: the block that is searched for is a stretch of both texts;
* `exists_sublist_length_eq_matched`: so the matched characters are found in both texts, in one
  order;
* `isClose_iff`: the characters of two texts, and even their lengths alone, bound the score, so
  trying these bounds first rules out no candidate at the threshold;
* `pairwise_ranked`, `mem_ranked_iff`: the ranking holds the candidates at the threshold in strict
  order;
* `closeMatches_eq_take_ranked`: the close matches are its first ones;
* `closeMatches_eq_of_mem_iff`: so they do not depend on the order of the candidates.
-/

namespace HackFrontEnd.Text

variable {xs ys : List Char}

/-! ## Shared blocks -/

namespace Block

/-- Both texts hold one and the same stretch at the two places of the block. -/
def IsShared (xs ys : List Char) (b : Block) : Prop :=
  ∃ before before' shared behind behind',
    xs = before ++ (shared ++ behind) ∧ ys = before' ++ (shared ++ behind') ∧
      before.length = b.left ∧ before'.length = b.right ∧ shared.length = b.size

lemma isShared_empty (xs ys : List Char) : IsShared xs ys ⟨0, 0, 0⟩ :=
  ⟨[], [], [], xs, ys, rfl, rfl, rfl, rfl, rfl⟩

lemma IsShared.longer {b c : Block} (hb : IsShared xs ys b) (hc : IsShared xs ys c) :
    IsShared xs ys (b.longer c) := by
  unfold Block.longer
  split <;> assumption

end Block

/-- A run is a common start of both texts. -/
lemma exists_length_eq_runLength (eligible : Char → Bool) (xs ys : List Char) :
    ∃ shared behind behind', xs = shared ++ behind ∧ ys = shared ++ behind' ∧
      shared.length = runLength eligible xs ys := by
  fun_induction runLength eligible xs ys with
  | case1 x xs y ys h ih =>
    obtain ⟨shared, behind, behind', hxs, hys, hlength⟩ := ih
    rw [Bool.and_eq_true, beq_iff_eq] at h
    exact ⟨x :: shared, behind, behind', by rw [hxs]; rfl, by rw [h.1, hys]; rfl,
      by rw [List.length_cons, hlength]⟩
  | case2 x xs y ys h => exact ⟨[], x :: xs, y :: ys, rfl, rfl, rfl⟩
  | case3 xs ys => exact ⟨[], xs, ys, rfl, rfl, rfl⟩

namespace Block

/-- A run that starts at two places is a shared block. -/
lemma isShared_run (eligible : Char → Bool) {before before' : List Char} {left right : Nat}
    (hleft : before.length = left) (hright : before'.length = right) (xs ys : List Char) :
    IsShared (before ++ xs) (before' ++ ys) ⟨left, right, runLength eligible xs ys⟩ := by
  obtain ⟨shared, behind, behind', hxs, hys, hlength⟩ :=
    exists_length_eq_runLength eligible xs ys
  exact ⟨before, before', shared, behind, behind', congrArg (before ++ ·) hxs,
    congrArg (before' ++ ·) hys, hleft, hright, hlength⟩

/-- The search along the second text keeps to shared blocks. -/
lemma IsShared.bestFromHead (eligible : Char → Bool) {before before' : List Char}
    {left right : Nat} {best : Block} (hleft : before.length = left)
    (hright : before'.length = right)
    (h : IsShared (before ++ xs) (before' ++ ys) best) :
    IsShared (before ++ xs) (before' ++ ys)
      (Block.bestFromHead eligible xs left ys right best) := by
  -- the induction moves along the second text, and what it has passed is kept as the part before
  -- the block
  induction ys generalizing before' right best with
  | nil => exact h
  | cons y ys ih =>
    have hlonger := h.longer (isShared_run eligible hleft hright xs (y :: ys))
    rw [List.append_cons] at hlonger ⊢
    exact ih (by rw [List.length_append, hright]; rfl) hlonger

/-- The search along the first text keeps to shared blocks. -/
lemma IsShared.bestFrom (eligible : Char → Bool) {before : List Char} {left : Nat} {best : Block}
    (hleft : before.length = left) (h : IsShared (before ++ xs) ys best) :
    IsShared (before ++ xs) ys (Block.bestFrom eligible ys xs left best) := by
  induction xs generalizing before left best with
  | nil => exact h
  | cons x xs ih =>
    have hbest : IsShared (before ++ x :: xs) ([] ++ ys) _ :=
      IsShared.bestFromHead eligible hleft rfl h
    rw [List.append_cons] at hbest ⊢
    exact ih (by rw [List.length_append, hleft]; rfl) hbest

lemma drop_append_append (before shared behind : List Char) :
    (before ++ (shared ++ behind)).drop (before.length + shared.length) = behind := by
  rw [← List.append_assoc, ← List.length_append, List.drop_left]

/-- Equal neighbours on both sides make the stretch longer. -/
lemma IsShared.widen {b : Block} (h : IsShared xs ys b) : IsShared xs ys (b.widen xs ys) := by
  obtain ⟨left, right, size⟩ := b
  obtain ⟨before, before', shared, behind, behind', rfl, rfl, rfl, rfl, rfl⟩ := h
  -- the stretch before the block is measured backwards, from the block on
  obtain ⟨ahead, far, far', hfar, hfar', hahead⟩ :=
    exists_length_eq_runLength (fun _ => true) before.reverse before'.reverse
  obtain ⟨after, rest, rest', rfl, rfl, hafter⟩ :=
    exists_length_eq_runLength (fun _ => true) behind behind'
  have hlength : ahead.reverse.length = ahead.length := List.length_reverse
  have hbefore : before = far.reverse ++ ahead.reverse := by
    rw [← List.reverse_append, ← hfar, List.reverse_reverse]
  have hbefore' : before' = far'.reverse ++ ahead.reverse := by
    rw [← List.reverse_append, ← hfar', List.reverse_reverse]
  simp only [Block.widen, List.take_left, drop_append_append, ← hahead, ← hafter]
  refine ⟨far.reverse, far'.reverse, ahead.reverse ++ shared ++ after, rest, rest',
    by simp only [hbefore, List.append_assoc], by simp only [hbefore', List.append_assoc], ?_, ?_,
    ?_⟩
  · rw [hbefore, List.length_append, hlength, Nat.add_sub_cancel]
  · rw [hbefore', List.length_append, hlength, Nat.add_sub_cancel]
  · rw [List.length_append, List.length_append, hlength]

/-- The block that is searched for is a stretch of both texts. -/
theorem isShared_longestBlock (eligible : Char → Bool) (xs ys : List Char) :
    IsShared xs ys (longestBlock eligible xs ys) := by
  have hbest : IsShared ([] ++ xs) ys _ := IsShared.bestFrom eligible rfl (isShared_empty xs ys)
  exact hbest.widen

/-- The block takes one stretch out of the middle of both texts. -/
lemma IsShared.exists_eq {b : Block} (h : IsShared xs ys b) :
    ∃ shared : List Char, shared.length = b.size ∧
      xs = xs.take b.left ++ (shared ++ xs.drop (b.left + b.size)) ∧
      ys = ys.take b.right ++ (shared ++ ys.drop (b.right + b.size)) := by
  obtain ⟨left, right, size⟩ := b
  obtain ⟨before, before', shared, behind, behind', rfl, rfl, rfl, rfl, rfl⟩ := h
  refine ⟨shared, rfl, ?_, ?_⟩ <;> rw [List.take_left, drop_append_append]

end Block

/-- The matched characters, one after the other, are found in both texts in this order. -/
theorem exists_sublist_length_eq_matched (eligible : Char → Bool) (xs ys : List Char) :
    ∃ zs : List Char, zs.Sublist xs ∧ zs.Sublist ys ∧ zs.length = matched eligible xs ys := by
  fun_induction matched eligible xs ys with
  | case1 xs ys hsize => exact ⟨[], List.nil_sublist xs, List.nil_sublist ys, rfl⟩
  | case2 xs ys hsize b ihbefore ihbehind =>
    obtain ⟨zs, hxs, hys, hzs⟩ := ihbefore
    obtain ⟨zs', hxs', hys', hzs'⟩ := ihbehind
    -- the block stands between what is matched before it and what is matched behind it, in both
    -- texts
    obtain ⟨shared, hshared, hxseq, hyseq⟩ := (Block.isShared_longestBlock eligible xs ys).exists_eq
    have hxsub := hxs.append ((List.Sublist.refl shared).append hxs')
    have hysub := hys.append ((List.Sublist.refl shared).append hys')
    rw [← hxseq] at hxsub
    rw [← hyseq] at hysub
    refine ⟨zs ++ (shared ++ zs'), hxsub, hysub, ?_⟩
    rw [List.length_append, List.length_append, hzs, hshared, hzs', Nat.add_assoc]

/-! ## Characters in common -/

/-- What two texts hold in any order, they have in common. -/
lemma length_le_commonCharacters {zs : List Char} (hxs : zs.Subperm xs) (hys : zs.Subperm ys) :
    zs.length ≤ commonCharacters xs ys := by
  induction xs generalizing ys zs with
  | nil => rw [List.subperm_nil.mp hxs]; exact Nat.zero_le _
  | cons x xs ih =>
    have herase : (zs.erase x).Subperm xs := by
      simpa only [List.erase_cons_head] using hxs.erase x
    rw [commonCharacters]
    by_cases hx : x ∈ ys
    · rw [if_pos hx]
      calc zs.length ≤ (x :: zs.erase x).length := (List.subperm_cons_erase x zs).length_le
        _ ≤ commonCharacters xs (ys.erase x) + 1 := Nat.succ_le_succ (ih herase (hys.erase x))
    · rw [if_neg hx]
      -- a character that one text lacks is not among those found in both
      have hzs : x ∉ zs := fun hmem => hx (hys.subset hmem)
      rw [List.erase_of_not_mem hzs] at herase
      exact ih herase hys

lemma commonCharacters_le (xs ys : List Char) :
    commonCharacters xs ys ≤ min xs.length ys.length := by
  induction xs generalizing ys with
  | nil => exact Nat.zero_le _
  | cons x xs ih =>
    rw [commonCharacters]
    split
    case isTrue hx =>
      have := ih (ys.erase x)
      have := List.length_erase_of_mem hx
      have := List.length_pos_of_mem hx
      simp only [List.length_cons]
      omega
    case isFalse =>
      have := ih ys
      simp only [List.length_cons]
      omega

/-! ## Scores as numbers -/

namespace Score

/-- The fraction as a number. -/
def value (s : Score) : ℚ :=
  s.num / s.den

/-- Cross multiplication compares the numbers that fractions stand for. -/
lemma le_iff (s t : Score) : s.le t = true ↔ s.value ≤ t.value := by
  have hs : (0 : ℚ) < s.den := Nat.cast_pos.mpr s.den_pos
  have ht : (0 : ℚ) < t.den := Nat.cast_pos.mpr t.den_pos
  -- no denominator is zero, so both fractions can be multiplied out
  rw [Score.le, decide_eq_true_iff, value, value, div_le_div_iff₀ hs ht]
  norm_cast

lemma value_threshold : threshold.value = 3 / 5 := rfl

/-- The more two texts have in common, the higher the score. -/
lemma value_ofCommon_mono {common common' : Nat} (h : common ≤ common') (total : Nat) :
    (ofCommon common total).value ≤ (ofCommon common' total).value := by
  rw [← le_iff, Score.le, decide_eq_true_iff]
  unfold ofCommon
  split
  · exact le_rfl
  · exact Nat.mul_le_mul_right total (Nat.mul_le_mul_left 2 h)

/-- The characters that two texts have in common bound their score. -/
theorem value_ofTexts_le_characterBound (candidate word : List Char) :
    (ofTexts candidate word).value ≤ (characterBound candidate word).value := by
  obtain ⟨zs, hcandidate, hword, hlength⟩ := exists_sublist_length_eq_matched
    (fun c => !(candidate.filter (isPopular word)).contains c) candidate word
  refine value_ofCommon_mono ?_ _
  rw [← hlength]
  exact length_le_commonCharacters hcandidate.subperm hword.subperm

/-- The lengths of two texts bound what their characters leave possible. -/
theorem characterBound_le_lengthBound (candidate word : List Char) :
    (characterBound candidate word).value ≤ (lengthBound candidate word).value :=
  value_ofCommon_mono (commonCharacters_le candidate word) _

end Score

/-- How alike a candidate is to a word. -/
def likeness (word candidate : String) : ℚ :=
  (Score.ofTexts candidate.toList word.toList).value

/-- The bounds rule out no candidate that has a score at the threshold. -/
theorem isClose_iff (word candidate : String) :
    isClose word candidate = true ↔ 3 / 5 ≤ likeness word candidate := by
  have hcharacters := Score.value_ofTexts_le_characterBound candidate.toList word.toList
  have hlengths := Score.characterBound_le_lengthBound candidate.toList word.toList
  rw [isClose, Bool.and_eq_true, Bool.and_eq_true, Score.le_iff, Score.le_iff, Score.le_iff,
    Score.value_threshold, ← likeness]
  rw [← likeness] at hcharacters
  constructor
  · exact fun h => h.2
  · exact fun h => ⟨⟨(h.trans hcharacters).trans hlengths, h.trans hcharacters⟩, h⟩

/-! ## The ranking of candidates -/

/-- Candidates rank by their likeness to the word and, for equal likeness, by their text. -/
def rank (word candidate : String) : ℚ ×ₗ String :=
  toLex (likeness word candidate, candidate)

lemma rank_injective (word : String) : Function.Injective (rank word) := by
  intro s s' h
  exact congrArg (fun r => (ofLex r).2) h

/-- The first candidate is more like the word, or as much like it and the greater text. -/
def Outranks (word s s' : String) : Prop :=
  rank word s' < rank word s

instance (word : String) : Std.Asymm (Outranks word) where
  asymm _ s' h := not_lt_of_gt (a := rank word s') h

/-- Whether the first candidate is sorted before the other one. -/
def rankedLE (word s s' : String) : Bool :=
  rankLE (Score.ofTexts s.toList word.toList, s) (Score.ofTexts s'.toList word.toList, s')

/-- Candidates are sorted by descending rank. -/
lemma rankedLE_iff {word s s' : String} :
    rankedLE word s s' = true ↔ rank word s' ≤ rank word s := by
  rw [rankedLE, rankLE, Bool.and_eq_true, Bool.or_eq_true, Bool.not_eq_true', ← Bool.not_eq_true,
    Score.le_iff, Score.le_iff, decide_eq_true_iff, rank, rank, Prod.Lex.toLex_le_toLex',
    ← imp_iff_not_or]
  refine and_congr_right fun hle => imp_congr_left ?_
  exact ⟨fun hge => le_antisymm hle hge, fun heq => heq.ge⟩

lemma rankedLE_trans (word s s' s'' : String) (h : rankedLE word s s' = true)
    (h' : rankedLE word s' s'' = true) : rankedLE word s s'' = true :=
  rankedLE_iff.mpr ((rankedLE_iff.mp h').trans (rankedLE_iff.mp h))

lemma rankedLE_total (word s s' : String) :
    (rankedLE word s s' || rankedLE word s' s) = true := by
  rw [Bool.or_eq_true, rankedLE_iff, rankedLE_iff]
  exact le_total (rank word s') (rank word s)

/-- The candidates at the threshold, the best one first. -/
def ranked (word : String) (candidates : List String) : List String :=
  (candidates.filter (isClose word)).mergeSort (rankedLE word)

theorem mem_ranked_iff {word s : String} {candidates : List String} :
    s ∈ ranked word candidates ↔ s ∈ candidates ∧ 3 / 5 ≤ likeness word s := by
  rw [ranked, List.mem_mergeSort, List.mem_filter, isClose_iff]

/-- The ranking is in strict order. -/
theorem pairwise_ranked {candidates : List String} (word : String) (h : candidates.Nodup) :
    (ranked word candidates).Pairwise (Outranks word) := by
  have hordered := List.pairwise_mergeSort (rankedLE_trans word) (rankedLE_total word)
    (candidates.filter (isClose word))
  have hnodup : (ranked word candidates).Nodup :=
    (List.mergeSort_perm _ _).nodup_iff.mpr (h.filter _)
  -- sorted is not strictly sorted, but no candidate comes twice
  refine (hordered.and hnodup).imp ?_
  rintro s s' ⟨hle, hne⟩
  exact lt_of_le_of_ne (rankedLE_iff.mp hle) fun heq => hne (rank_injective word heq).symm

/-- Scores are set beside the candidates to sort them, and then taken away again. -/
theorem closeMatches_eq_take_ranked (word : String) (candidates : List String) :
    closeMatches word candidates = (ranked word candidates).take maxSuggestions := by
  let scored (s : String) : Score × String := (Score.ofTexts s.toList word.toList, s)
  -- a candidate settles its score, so sorting pairs sorts the candidates
  have hsort : (ranked word candidates).map scored =
      ((candidates.filter (isClose word)).map scored).mergeSort rankLE :=
    List.map_mergeSort fun _ _ _ _ => rfl
  show ((((candidates.filter (isClose word)).map scored).mergeSort rankLE).take
    maxSuggestions).map Prod.snd = _
  rw [← hsort, ← List.map_take, List.map_map]
  exact List.map_id _

/-- Which candidates there are settles the close matches, not the order in which they come. -/
theorem closeMatches_eq_of_mem_iff {word : String} {candidates candidates' : List String}
    (h : candidates.Nodup) (h' : candidates'.Nodup)
    (hmem : ∀ s, s ∈ candidates ↔ s ∈ candidates') :
    closeMatches word candidates = closeMatches word candidates' := by
  -- a list in strict order is settled by its members
  have hranked : ranked word candidates = ranked word candidates' :=
    (pairwise_ranked word h).eq_of_mem_iff (pairwise_ranked word h') fun s => by
      rw [mem_ranked_iff, mem_ranked_iff, hmem]
  rw [closeMatches_eq_take_ranked, closeMatches_eq_take_ranked, hranked]

end HackFrontEnd.Text
