/-!
# Likeness of two texts

How alike two texts are, and the known names that a mistyped word is likely to mean.

- `Block` is a stretch that two texts share, `longestBlock` the longest one, found through rare
  characters and then widened over equal neighbours of any kind.
- `matched` counts the characters covered by the longest block and, recursively, by the blocks to
  its left and to its right.
- `Score` is the share of matched characters, kept as a fraction so that comparing it is exact.
- `closeMatches` picks the candidates with the best scores. What the lengths and the characters of
  a candidate rule out is not matched at all.
-/

namespace HackFrontEnd.Text

/-- A stretch of `size` characters that starts at `left` in one text and at `right` in another. -/
structure Block where
  left : Nat
  right : Nat
  size : Nat
deriving DecidableEq, Repr

/-- The number of equal leading characters, all of them in the class. -/
def runLength (eligible : Char → Bool) : List Char → List Char → Nat
  | x :: xs, y :: ys => if x == y && eligible x then runLength eligible xs ys + 1 else 0
  | _, _ => 0

namespace Block

/-- The longer block; of two equally long ones the first. -/
def longer (b c : Block) : Block :=
  if b.size < c.size then c else b

/-- The best of a given block and those that start at the head of the first text. -/
def bestFromHead (eligible : Char → Bool) (xs : List Char) (left : Nat) :
    List Char → Nat → Block → Block
  | [], _, best => best
  | y :: ys, right, best =>
    bestFromHead eligible xs left ys (right + 1)
      (best.longer ⟨left, right, runLength eligible xs (y :: ys)⟩)

/-- The best of a given block and those that start anywhere. -/
def bestFrom (eligible : Char → Bool) (ys : List Char) : List Char → Nat → Block → Block
  | [], _, best => best
  | x :: xs, left, best =>
    bestFrom eligible ys xs (left + 1) (bestFromHead eligible (x :: xs) left ys 0 best)

/-- The block together with the equal characters on both sides of it. -/
def widen (xs ys : List Char) (b : Block) : Block :=
  let before := runLength (fun _ => true) (xs.take b.left).reverse (ys.take b.right).reverse
  let after := runLength (fun _ => true) (xs.drop (b.left + b.size)) (ys.drop (b.right + b.size))
  ⟨b.left - before, b.right - before, before + b.size + after⟩

end Block

/-- The longest shared stretch of eligible characters (the first in `xs`, then the first in `ys`;
the empty one at both starts if there is none), widened over all equal neighbours. -/
def longestBlock (eligible : Char → Bool) (xs ys : List Char) : Block :=
  (Block.bestFrom eligible ys xs 0 ⟨0, 0, 0⟩).widen xs ys

/-! ## The longest block lies inside the first text -/

theorem runLength_le_left (eligible : Char → Bool) (xs ys : List Char) :
    runLength eligible xs ys ≤ xs.length := by
  fun_induction runLength <;> simp_all

private theorem Block.longer_le {b c : Block} {n : Nat} (hb : b.left + b.size ≤ n)
    (hc : c.left + c.size ≤ n) : (b.longer c).left + (b.longer c).size ≤ n := by
  unfold Block.longer
  split <;> assumption

/-- The best block from the head of the first text ends within it. -/
private theorem Block.bestFromHead_le {eligible : Char → Bool} {xs : List Char} {left n : Nat}
    (hxs : left + xs.length ≤ n) (ys : List Char) {right : Nat} {best : Block}
    (h : best.left + best.size ≤ n) :
    (bestFromHead eligible xs left ys right best).left +
      (bestFromHead eligible xs left ys right best).size ≤ n := by
  induction ys generalizing right best with
  | nil => exact h
  | cons y ys ih =>
    refine ih (Block.longer_le h ?_)
    have := runLength_le_left eligible xs (y :: ys)
    simp only
    omega

private theorem Block.bestFrom_le {eligible : Char → Bool} {ys : List Char} (xs : List Char)
    {left n : Nat} {best : Block} (hxs : left + xs.length ≤ n) (h : best.left + best.size ≤ n) :
    (bestFrom eligible ys xs left best).left + (bestFrom eligible ys xs left best).size ≤ n := by
  induction xs generalizing left best with
  | nil => exact h
  | cons x xs ih =>
    simp only [List.length_cons] at hxs
    exact ih (by omega) (Block.bestFromHead_le (by simpa using hxs) ys h)

/-- The longest block ends within the first text, even after it was widened. -/
theorem longestBlock_le (eligible : Char → Bool) (xs ys : List Char) :
    (longestBlock eligible xs ys).left + (longestBlock eligible xs ys).size ≤ xs.length := by
  have hb : (Block.bestFrom eligible ys xs 0 ⟨0, 0, 0⟩).left +
      (Block.bestFrom eligible ys xs 0 ⟨0, 0, 0⟩).size ≤ xs.length :=
    Block.bestFrom_le xs (by simp) (by simp)
  simp only [longestBlock, Block.widen]
  generalize Block.bestFrom eligible ys xs 0 ⟨0, 0, 0⟩ = b at hb
  have hl := runLength_le_left (fun _ => true) (xs.take b.left).reverse (ys.take b.right).reverse
  have hr := runLength_le_left (fun _ => true) (xs.drop (b.left + b.size))
    (ys.drop (b.right + b.size))
  simp only [List.length_reverse, List.length_take, List.length_drop] at hl hr
  omega

/-! ## Matched characters -/

/-- The characters covered by the longest block and by the blocks on either side of it. -/
def matched (eligible : Char → Bool) (xs ys : List Char) : Nat :=
  -- the block lies inside `xs`, so both sides of it are shorter than `xs`
  if _h : (longestBlock eligible xs ys).size = 0 then 0
  else
    let b := longestBlock eligible xs ys
    matched eligible (xs.take b.left) (ys.take b.right) + b.size +
      matched eligible (xs.drop (b.left + b.size)) (ys.drop (b.right + b.size))
termination_by xs.length
decreasing_by
  all_goals
    have := longestBlock_le eligible xs ys
    simp only [List.length_take, List.length_drop]
    omega

/-- Texts of this length or more have popular characters, which do not start a block. -/
def popularityLength : Nat := 200

/-- A character is popular in a long text when it makes up more than a hundredth of it and one. -/
def isPopular (ys : List Char) (c : Char) : Bool :=
  popularityLength ≤ ys.length && ys.length / 100 + 1 < ys.count c

/-! ## Scores -/

/-- The number of characters that two texts have in common, in any order. -/
def commonCharacters : List Char → List Char → Nat
  | [], _ => 0
  | x :: xs, ys =>
    if x ∈ ys then commonCharacters xs (ys.erase x) + 1 else commonCharacters xs ys

/-- The share of common characters in two texts, as a fraction of whole numbers. -/
structure Score where
  num : Nat
  den : Nat
  den_pos : 0 < den

namespace Score

/-- Twice the common characters over the length of both texts, and one for two empty texts. -/
def ofCommon (common total : Nat) : Score :=
  if h : total = 0 then ⟨1, 1, by decide⟩ else ⟨2 * common, total, Nat.pos_of_ne_zero h⟩

/-- The score of two texts, by their matched characters. -/
def ofTexts (candidate word : List Char) : Score :=
  -- only characters of the candidate are ever compared
  let popular := candidate.filter (isPopular word)
  ofCommon (matched (fun c => !popular.contains c) candidate word) (candidate.length + word.length)

/-- What the lengths of two texts leave possible. -/
def lengthBound (candidate word : List Char) : Score :=
  ofCommon (min candidate.length word.length) (candidate.length + word.length)

/-- What the characters of two texts leave possible. -/
def characterBound (candidate word : List Char) : Score :=
  ofCommon (commonCharacters candidate word) (candidate.length + word.length)

/-- Fractions are compared by cross multiplication. -/
def le (s t : Score) : Bool :=
  s.num * t.den ≤ t.num * s.den

/-- The least score of a close match. -/
def threshold : Score := ⟨3, 5, by decide⟩

end Score

/-- The candidate has a score at the threshold or above. The cheap bounds are tried first. -/
def isClose (word candidate : String) : Bool :=
  Score.threshold.le (Score.lengthBound candidate.toList word.toList) &&
    Score.threshold.le (Score.characterBound candidate.toList word.toList) &&
    Score.threshold.le (Score.ofTexts candidate.toList word.toList)

/-- The number of names that are suggested for an unknown one. -/
def maxSuggestions : Nat := 3

/-- Candidates with their scores by descending score and, for equal scores, by descending text. -/
def rankLE (p q : Score × String) : Bool :=
  q.1.le p.1 && (!p.1.le q.1 || q.2 ≤ p.2)

/-- The best candidates for a word: those at the threshold or above, at most `maxSuggestions` of
them, the best one first. -/
def closeMatches (word : String) (candidates : List String) : List String :=
  let scored := (candidates.filter (isClose word)).map fun c =>
    (Score.ofTexts c.toList word.toList, c)
  ((scored.mergeSort rankLE).take maxSuggestions).map Prod.snd

/-- Only candidates are suggested. -/
theorem mem_of_mem_closeMatches {word s : String} {candidates : List String}
    (h : s ∈ closeMatches word candidates) : s ∈ candidates := by
  obtain ⟨⟨score, c⟩, hranked, rfl⟩ := List.mem_map.mp h
  have hscored := List.mem_mergeSort.mp (List.mem_of_mem_take hranked)
  obtain ⟨c', hclose, heq⟩ := List.mem_map.mp hscored
  rw [← (Prod.mk.inj heq).2]
  exact (List.mem_filter.mp hclose).1

end HackFrontEnd.Text
