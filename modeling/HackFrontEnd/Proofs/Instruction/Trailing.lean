import HackFrontEnd.Proofs.Instruction.Operands
import HackFrontEnd.Proofs.Text.Words

/-!
# What follows an instruction

The first word of an instruction settles how many words are looked at. An instruction that has all
of them is complete, and text that a blank sets off from it is not looked at:

* `words_followedBy`: such text adds words and leaves those before it as they are;
* `kind_followedBy`, `arg1_followedBy`, `arg2_followedBy`, `hasArg2_followedBy`: so an answer stays
  what it was, up to the text that a report quotes;
* `wordsNeeded_le_of_comment_ignored`: where a word is missing, a comment is taken for it;
* `trailing_ignored_iff_complete`: so complete instructions are just those that may be followed by
  anything.
-/

namespace HackFrontEnd

open Text

/-- The number of words that an instruction of this kind calls for. -/
def Kind.wordsNeeded : Kind → Nat
  | arithmetic | ret => 1
  | label | goto | ifGoto => 2
  | push | pop | function | call => 3

lemma Kind.wordsNeeded_le (k : Kind) : k.wordsNeeded ≤ 3 := by
  cases k <;> decide

/-- All kinds call for a second word but those that do not look at it. -/
lemma Kind.two_le_wordsNeeded_iff (k : Kind) :
    2 ≤ k.wordsNeeded ↔ k ≠ .arithmetic ∧ k ≠ .ret := by
  cases k <;> decide

/-- The kinds that call for a third word are those that have a number. -/
lemma Kind.three_le_wordsNeeded_iff (k : Kind) : 3 ≤ k.wordsNeeded ↔ k.hasNumber = true := by
  cases k <;> decide

/-- The error, as a report on a line with this text. -/
def ReadError.quoting (text : String) : ReadError → ReadError
  | .diagnostic d => .diagnostic { d with sourceLine := some text }
  | .numeralTooLong digits => .numeralTooLong digits

namespace Instruction

variable {i : Instruction} {k : Kind} {u : String} {more : List String}

/-! ## Complete instructions -/

/-- The number of words that the first one calls for. A word that is no keyword calls for no
other. -/
def wordsNeeded (keyword : String) : Nat :=
  ((Kind.ofKeyword? keyword).map Kind.wordsNeeded).getD 1

/-- The instruction has as many words as its first one calls for. -/
def IsComplete (i : Instruction) : Prop :=
  ∃ w ws, i.words = w :: ws ∧ wordsNeeded w ≤ i.words.length

/-- The instruction with more text behind it on its line. -/
def followedBy (i : Instruction) (u : String) : Instruction :=
  { i with text := i.text ++ u }

/-- A blank sets off the words that follow from those of the instruction. -/
theorem words_followedBy {c : Char} {rest : List Char} (hu : u.toList = c :: rest)
    (hc : isBlank c = true) :
    (i.followedBy u).words = i.words ++ (Text.words rest).map String.ofList := by
  show (Text.words (i.text ++ u).toList).map String.ofList = _
  rw [String.toList_append, hu, words_append_blank hc, List.map_append]
  rfl

/-! ## Answers -/

/-- The first word settles the kind, so words that follow do not change it. -/
lemma kind_followedBy (hmore : (i.followedBy u).words = i.words ++ more) (h : i.IsComplete) :
    (i.followedBy u).kind = i.kind.mapError (·.quoting (i.followedBy u).text) := by
  obtain ⟨w, ws, hw, _⟩ := h
  have hw' : (i.followedBy u).words = w :: (ws ++ more) := by rw [hmore, hw, List.cons_append]
  cases hk : Kind.ofKeyword? w with
  | none =>
    rw [kind_of_unknown_keyword hw hk, kind_of_unknown_keyword hw' hk]
    rfl
  | some k =>
    rw [kind_of_keyword hw hk, kind_of_keyword hw' hk]
    rfl

lemma hasArg2_followedBy (hmore : (i.followedBy u).words = i.words ++ more) (h : i.IsComplete) :
    (i.followedBy u).hasArg2 = i.hasArg2.mapError (·.quoting (i.followedBy u).text) := by
  rw [hasArg2, hasArg2, kind_followedBy hmore h]
  cases i.kind <;> rfl

lemma readNumber_followedBy (keyword argument numeral : String) :
    (i.followedBy u).readNumber keyword argument numeral =
      (i.readNumber keyword argument numeral).mapError (·.quoting (i.followedBy u).text) := by
  rw [readNumber, readNumber]
  split <;> rfl

/-- The words that a complete instruction of some kind has. -/
lemma wordsNeeded_le_length {w : String} {ws : List String} (hw : i.words = w :: ws)
    (hk : Kind.ofKeyword? w = some k) (h : i.IsComplete) : k.wordsNeeded ≤ ws.length + 1 := by
  obtain ⟨v, vs, hv, hneeded⟩ := h
  rw [hw] at hv hneeded
  obtain ⟨rfl, rfl⟩ := List.cons.inj hv
  rwa [wordsNeeded, hk] at hneeded

/-- The first operand of a complete instruction stays what it was. -/
lemma arg1_followedBy (hmore : (i.followedBy u).words = i.words ++ more) (h : i.IsComplete) :
    (i.followedBy u).arg1 = i.arg1.mapError (·.quoting (i.followedBy u).text) := by
  have hkind := kind_followedBy hmore h
  cases hk : i.kind with
  | error e =>
    rw [hk] at hkind
    rw [arg1_of_kind_error hk, arg1_of_kind_error hkind]
    rfl
  | ok k =>
    rw [hk] at hkind
    obtain ⟨w, ws, hw, hkeyword⟩ := kind_eq_ok_iff.mp hk
    have hw' : (i.followedBy u).words = w :: (ws ++ more) := by rw [hmore, hw, List.cons_append]
    by_cases ha : k = .arithmetic
    · subst ha
      rw [arg1_of_arithmetic hk, arg1_of_arithmetic hkind, keyword_eq hw, keyword_eq hw']
      rfl
    by_cases hr : k = .ret
    · subst hr
      rw [arg1_of_ret hk, arg1_of_ret hkind]
      rfl
    -- the second word is there, and so the words that follow cannot be taken for it
    have hneeded := wordsNeeded_le_length hw hkeyword h
    have htwo : 2 ≤ k.wordsNeeded := k.two_le_wordsNeeded_iff.mpr ⟨ha, hr⟩
    have hpos : 0 < ws.length := by omega
    obtain ⟨argument, ws, rfl⟩ := List.exists_cons_of_length_pos hpos
    rw [arg1_of_second_word hk ha hr (by rw [hw]; rfl),
      arg1_of_second_word hkind ha hr (by rw [hw']; rfl)]
    rfl

/-- The second operand of a complete instruction stays what it was. -/
lemma arg2_followedBy (hmore : (i.followedBy u).words = i.words ++ more) (h : i.IsComplete) :
    (i.followedBy u).arg2 = i.arg2.mapError (·.quoting (i.followedBy u).text) := by
  have hkind := kind_followedBy hmore h
  cases hk : i.kind with
  | error e =>
    rw [hk] at hkind
    rw [arg2_of_kind_error hk, arg2_of_kind_error hkind]
    rfl
  | ok k =>
    rw [hk] at hkind
    cases hn : k.hasNumber with
    | false =>
      rw [arg2_of_no_number hk hn, arg2_of_no_number hkind hn]
      rfl
    | true =>
      obtain ⟨w, ws, hw, hkeyword⟩ := kind_eq_ok_iff.mp hk
      have hneeded := wordsNeeded_le_length hw hkeyword h
      have hthree : 3 ≤ k.wordsNeeded := k.three_le_wordsNeeded_iff.mpr hn
      have hpos : 0 < ws.length := by omega
      -- both operands are there already
      obtain ⟨argument, ws, rfl⟩ := List.exists_cons_of_length_pos hpos
      have hrest : 0 < ws.length := by rw [List.length_cons] at hneeded; omega
      obtain ⟨numeral, ws, rfl⟩ := List.exists_cons_of_length_pos hrest
      have hw' : (i.followedBy u).words = w :: argument :: numeral :: (ws ++ more) := by
        rw [hmore, hw]
        rfl
      rw [arg2_of_numeral hk hn hw, arg2_of_numeral hkind hn hw', readNumber_followedBy]

lemma describe_followedBy (hmore : (i.followedBy u).words = i.words ++ more) (h : i.IsComplete) :
    (i.followedBy u).describe =
      (i.describe.map fun entry => { entry with text := (i.followedBy u).text }).mapError
        (·.quoting (i.followedBy u).text) := by
  rw [describe, describe, kind_followedBy hmore h, arg1_followedBy hmore h,
    arg2_followedBy hmore h]
  cases i.kind with
  | error e => rfl
  | ok k => cases k <;> cases i.arg1 <;> cases i.arg2 <;> rfl

/-- An instruction answers every question as another one does. Where that is an error, it is the
same fault at the same place, and so of the same family, in the same words and with the same hint;
but the text that is quoted is its own. -/
structure AnswersLike (j i : Instruction) : Prop where
  kind : j.kind = i.kind.mapError (·.quoting j.text)
  arg1 : j.arg1 = i.arg1.mapError (·.quoting j.text)
  arg2 : j.arg2 = i.arg2.mapError (·.quoting j.text)
  hasArg2 : j.hasArg2 = i.hasArg2.mapError (·.quoting j.text)
  describe : j.describe =
    (i.describe.map fun entry => { entry with text := j.text }).mapError (·.quoting j.text)

/-- A complete instruction answers all questions as it did. -/
lemma IsComplete.answersLike_followedBy (h : i.IsComplete)
    (hu : ∃ c ∈ u.toList.head?, isBlank c = true) : (i.followedBy u).AnswersLike i := by
  obtain ⟨c, hc, hblank⟩ := hu
  obtain ⟨rest, hrest⟩ := List.head?_eq_some_iff.mp hc
  have hmore := words_followedBy (i := i) hrest hblank
  exact ⟨kind_followedBy hmore h, arg1_followedBy hmore h, arg2_followedBy hmore h,
    hasArg2_followedBy hmore h, describe_followedBy hmore h⟩

/-! ## Incomplete instructions -/

lemma words_followedBy_comment (i : Instruction) :
    (i.followedBy " //").words = i.words ++ ["//"] :=
  words_followedBy (show " //".toList = ' ' :: ['/', '/'] from rfl) (by decide)

/-- An instruction without words would take a comment for its keyword. -/
lemma words_ne_nil_of_comment_ignored (h : (i.followedBy " //").AnswersLike i) :
    i.words ≠ [] := by
  intro hw
  have hw' : (i.followedBy " //").words = ["//"] := by
    rw [words_followedBy_comment, hw, List.nil_append]
  have hkind := h.kind
  rw [kind_of_no_words hw, kind_of_unknown_keyword hw' (by decide +kernel)] at hkind
  cases hkind

/-- Where a word is missing, a comment is taken for it. -/
theorem wordsNeeded_le_of_comment_ignored (h : (i.followedBy " //").AnswersLike i)
    (hk : i.kind = .ok k) : k.wordsNeeded ≤ i.words.length := by
  have hk' : (i.followedBy " //").kind = .ok k := by
    rw [h.kind, hk]
    rfl
  have hmore := words_followedBy_comment i
  by_contra hneeded
  obtain ⟨w, ws, hw, _⟩ := kind_eq_ok_iff.mp hk
  rw [hw] at hmore hneeded
  -- the cases are how many words there are, and so which question the comment answers
  rcases ws with _ | ⟨argument, _ | ⟨numeral, ws⟩⟩
  · have htwo : k ≠ .arithmetic ∧ k ≠ .ret := k.two_le_wordsNeeded_iff.mp (Nat.not_le.mp hneeded)
    have harg1 := h.arg1
    rw [arg1_of_no_second_word hk htwo.1 htwo.2 (by rw [hw]; rfl),
      arg1_of_second_word hk' htwo.1 htwo.2 (by rw [hmore]; rfl)] at harg1
    cases harg1
  · have hn : k.hasNumber = true := k.three_le_wordsNeeded_iff.mp (Nat.not_le.mp hneeded)
    have harg2 := h.arg2
    rw [arg2_of_no_numeral hk hn (by rw [hw]; simp), arg2_of_numeral hk' hn hmore] at harg2
    cases harg2
  · have hthree := k.wordsNeeded_le
    simp only [List.length_cons] at hneeded
    omega

theorem isComplete_of_comment_ignored (h : (i.followedBy " //").AnswersLike i) : i.IsComplete := by
  obtain ⟨w, ws, hw⟩ := List.exists_cons_of_ne_nil (words_ne_nil_of_comment_ignored h)
  refine ⟨w, ws, hw, ?_⟩
  rw [wordsNeeded]
  cases hkeyword : Kind.ofKeyword? w with
  | none =>
    rw [hw, List.length_cons]
    exact Nat.le_add_left 1 _
  | some k => exact wordsNeeded_le_of_comment_ignored h (kind_of_keyword hw hkeyword)

/-- What follows an instruction after a blank is ignored, whatever it is, exactly if the instruction
is complete. -/
theorem trailing_ignored_iff_complete (i : Instruction) :
    i.IsComplete ↔
      ∀ u : String, (∃ c ∈ u.toList.head?, isBlank c = true) →
        (i.followedBy u).AnswersLike i := by
  constructor
  · exact fun h u hu => h.answersLike_followedBy hu
  · exact fun h => isComplete_of_comment_ignored (h " //" ⟨' ', rfl, by decide⟩)

/-- A comment changes nothing about an instruction with a word for its number. -/
theorem trailing_ignored_of_word_for_number :
    let i : Instruction := { text := "push constant x", line := 3, filename := "a" }
    i.IsComplete ∧ (i.followedBy " // seven").AnswersLike i ∧
      i.arg2 = .error (i.faulty (.notANumber "x" "push" "constant")) := by
  intro i
  have hcomplete : i.IsComplete :=
    ⟨"push", ["constant", "x"], by decide +kernel, by decide +kernel⟩
  have hlike := (trailing_ignored_iff_complete i).mp hcomplete " // seven" ⟨' ', rfl, by decide⟩
  refine ⟨hcomplete, hlike, ?_⟩
  have hwords : i.words = ["push", "constant", "x"] := by decide +kernel
  have hkind : i.kind = .ok .push := kind_of_keyword hwords (by decide +kernel)
  rw [arg2_of_numeral hkind rfl hwords]
  rfl

end Instruction

end HackFrontEnd
