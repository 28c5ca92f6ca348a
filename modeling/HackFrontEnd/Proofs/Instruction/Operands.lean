import HackFrontEnd.Listing
import Mathlib.Tactic.Lemma

/-!
# The operands of an instruction

What each question about an instruction answers once its kind is settled, so that no later proof
opens the questions themselves:

* the kind is settled by the first word alone;
* a fault of the kind is the answer to every other question, `describe` included;
* otherwise the kind says which of the operands are looked at, the first one first;
* `HasFault`: the faults that an instruction can have;
* `kind_failure`, `arg1_failure`, `arg2_failure`: whatever goes wrong is a fault of this very
  instruction or a numeral that is too long.
-/

namespace HackFrontEnd.Instruction

variable {i : Instruction} {k : Kind} {e : ReadError} {w : String} {ws : List String}

/-! ## The kind -/

lemma keyword_eq (h : i.words = w :: ws) : i.keyword = w := by
  rw [keyword, h, List.headD_cons]

lemma kind_of_no_words (h : i.words = []) : i.kind = .error (i.faulty .emptyInstruction) := by
  rw [kind, if_pos h]

/-- A keyword that is known settles the kind, whatever follows. -/
lemma kind_of_keyword (h : i.words = w :: ws) (hk : Kind.ofKeyword? w = some k) :
    i.kind = .ok k := by
  have hne : i.words ≠ [] := by rw [h]; exact List.cons_ne_nil _ _
  rw [kind, if_neg hne, keyword_eq h, hk]

/-- A keyword that is not known is reported, along with the known ones that come close. -/
lemma kind_of_unknown_keyword (h : i.words = w :: ws) (hk : Kind.ofKeyword? w = none) :
    i.kind = .error
      (i.faulty (.unknownKeyword w (Text.closeMatches w (keywords.map Prod.fst)))) := by
  have hne : i.words ≠ [] := by rw [h]; exact List.cons_ne_nil _ _
  rw [kind, if_neg hne, keyword_eq h, hk]

/-- The kind is that of the first word. -/
lemma kind_eq_ok_iff :
    i.kind = .ok k ↔ ∃ w ws, i.words = w :: ws ∧ Kind.ofKeyword? w = some k := by
  constructor
  · intro h
    cases hw : i.words with
    | nil =>
      rw [kind_of_no_words hw] at h
      contradiction
    | cons w ws =>
      refine ⟨w, ws, rfl, ?_⟩
      cases hk : Kind.ofKeyword? w with
      | none =>
        rw [kind_of_unknown_keyword hw hk] at h
        contradiction
      | some l =>
        rw [kind_of_keyword hw hk] at h
        exact congrArg some (Except.ok.inj h)
  · rintro ⟨w, ws, hw, hk⟩
    exact kind_of_keyword hw hk

/-! ## The first operand -/

lemma arg1_of_kind_error (h : i.kind = .error e) : i.arg1 = .error e := by
  rw [arg1, h]
  rfl

lemma arg1_of_arithmetic (h : i.kind = .ok .arithmetic) : i.arg1 = .ok i.keyword := by
  rw [arg1, h]
  rfl

lemma arg1_of_ret (h : i.kind = .ok .ret) :
    i.arg1 = .error (i.faulty (.undefinedOperand Accessor.arg1.name Kind.ret.name)) := by
  rw [arg1, h]
  rfl

/-- All other kinds have the second word as their first operand. -/
lemma arg1_of_second_word {argument : String} (h : i.kind = .ok k) (ha : k ≠ .arithmetic)
    (hr : k ≠ .ret) (hw : i.words[1]? = some argument) : i.arg1 = .ok argument := by
  rw [arg1, h]
  cases k with
  | arithmetic => contradiction
  | ret => contradiction
  | push | pop | label | goto | ifGoto | function | call =>
    simp only [hw, bind, Except.bind]
    rfl

/-- Without a second word, all other kinds miss an argument. -/
lemma arg1_of_no_second_word (h : i.kind = .ok k) (ha : k ≠ .arithmetic) (hr : k ≠ .ret)
    (hw : i.words[1]? = none) : i.arg1 = .error (i.faulty (.missingArgument i.keyword)) := by
  rw [arg1, h]
  cases k with
  | arithmetic => contradiction
  | ret => contradiction
  | push | pop | label | goto | ifGoto | function | call =>
    simp only [hw, bind, Except.bind]
    rfl

/-! ## The second operand -/

lemma arg2_of_kind_error (h : i.kind = .error e) : i.arg2 = .error e := by
  rw [arg2, h]
  rfl

/-- A kind that has no number has no second operand to ask for. -/
lemma arg2_of_no_number (h : i.kind = .ok k) (hn : k.hasNumber = false) :
    i.arg2 = .error (i.faulty (.undefinedOperand Accessor.arg2.name k.name)) := by
  simp only [arg2, h, hn, bind, Except.bind]
  rfl

/-- With a third word, the second operand is up to what this word reads as. -/
lemma arg2_of_numeral {argument numeral : String} (h : i.kind = .ok k)
    (hn : k.hasNumber = true) (hw : i.words = w :: argument :: numeral :: ws) :
    i.arg2 = i.readNumber w argument numeral := by
  simp only [arg2, h, hn, hw, bind, Except.bind]
  rfl

/-- Without a third word, a kind that has a number misses it. -/
lemma arg2_of_no_numeral (h : i.kind = .ok k) (hn : k.hasNumber = true)
    (hw : i.words.length < 3) : i.arg2 = .error (i.faulty (.missingNumber i.keyword)) := by
  simp only [arg2, h, hn, bind, Except.bind]
  -- the question looks at the shape of the list of words, so that is what the cases follow
  match hws : i.words with
  | [] | [_] | [_, _] => rfl
  | _ :: _ :: _ :: _ =>
    rw [hws] at hw
    simp only [List.length_cons] at hw
    omega

/-- A numeral is read, refused as no numeral, or refused as too long. -/
lemma readNumber_cases (i : Instruction) (keyword argument numeral : String) :
    (∃ n, i.readNumber keyword argument numeral = .ok n) ∨
      i.readNumber keyword argument numeral =
        .error (i.faulty (.notANumber numeral keyword argument)) ∨
      ∃ digits, i.readNumber keyword argument numeral = .error (.numeralTooLong digits) := by
  rw [readNumber]
  split
  · exact .inl ⟨_, rfl⟩
  · exact .inr (.inl rfl)
  · exact .inr (.inr ⟨_, rfl⟩)

/-! ## The description -/

lemma describe_of_kind_error (h : i.kind = .error e) : i.describe = .error e := by
  rw [describe, h]
  rfl

lemma describe_of_ret (h : i.kind = .ok .ret) :
    i.describe = .ok { line := i.line, kind := Kind.ret.name, text := i.text } := by
  rw [describe, h]
  rfl

/-- Describing an instruction of a kind without a number asks for the first operand alone. -/
lemma describe_of_no_number (h : i.kind = .ok k) (hr : k ≠ .ret) (hn : k.hasNumber = false) :
    i.describe = i.arg1.map fun argument =>
      { line := i.line, kind := k.name, text := i.text, arg1 := some argument } := by
  simp only [describe, h, hn, if_neg hr, bind, Except.bind]
  cases i.arg1 <;> rfl

/-- Describing an instruction of a kind with a number asks for both operands, the first one
first. -/
lemma describe_of_number (h : i.kind = .ok k) (hn : k.hasNumber = true) :
    i.describe = i.arg1.bind fun argument => i.arg2.map fun n =>
      { line := i.line, kind := k.name, text := i.text, arg1 := some argument,
        arg2 := some (Int.ofNat n) } := by
  have hr : k ≠ .ret := by
    rintro rfl
    contradiction
  simp only [describe, h, hn, if_neg hr, bind, Except.bind]
  cases i.arg1 <;> cases i.arg2 <;> rfl

/-! ## What can go wrong -/

/-- The faults that questions about an instruction bring out. What they quote are words of the
instruction and keywords like them. -/
inductive HasFault (i : Instruction) : Fault → Prop
  | emptyInstruction : HasFault i .emptyInstruction
  | unknownKeyword {w : String} (mem : w ∈ i.words) :
      HasFault i (.unknownKeyword w (Text.closeMatches w (keywords.map Prod.fst)))
  | missingArgument {w : String} (mem : w ∈ i.words) : HasFault i (.missingArgument w)
  | missingNumber {w : String} (mem : w ∈ i.words) : HasFault i (.missingNumber w)
  | notANumber {w argument numeral : String} (mem : w ∈ i.words) (argument_mem : argument ∈ i.words)
      (numeral_mem : numeral ∈ i.words) : HasFault i (.notANumber numeral w argument)
  | undefinedOperand (question : Accessor) (k : Kind) :
      HasFault i (.undefinedOperand question.name k.name)

/-- Either the instruction is malformed, or it was asked for an operand that its kind does not
have. -/
lemma HasFault.family {f : Fault} (h : HasFault i f) :
    f.family = .malformed ∨ f.family = .operandAccess := by
  cases h with
  | emptyInstruction | unknownKeyword | missingArgument | missingNumber | notANumber =>
    exact .inl rfl
  | undefinedOperand => exact .inr rfl

/-- An instruction with a kind has a keyword. -/
lemma keyword_mem_words (h : i.kind = .ok k) : i.keyword ∈ i.words := by
  obtain ⟨w, ws, hw, _⟩ := kind_eq_ok_iff.mp h
  rw [keyword_eq hw, hw]
  exact List.mem_cons_self

/-- What goes wrong with the kind is a fault of the instruction, which is then malformed. -/
lemma hasFault_of_kind (h : i.kind = .error e) :
    ∃ f, e = i.faulty f ∧ HasFault i f ∧ f.family = .malformed := by
  cases hw : i.words with
  | nil =>
    rw [kind_of_no_words hw] at h
    exact ⟨_, (Except.error.inj h).symm, .emptyInstruction, rfl⟩
  | cons w ws =>
    cases hk : Kind.ofKeyword? w with
    | none =>
      rw [kind_of_unknown_keyword hw hk] at h
      have hmem : w ∈ i.words := hw ▸ List.mem_cons_self
      exact ⟨_, (Except.error.inj h).symm, .unknownKeyword hmem, rfl⟩
    | some k =>
      rw [kind_of_keyword hw hk] at h
      contradiction

lemma hasFault_of_arg1 (h : i.arg1 = .error e) : ∃ f, e = i.faulty f ∧ HasFault i f := by
  cases hk : i.kind with
  | error e' =>
    rw [arg1_of_kind_error hk] at h
    obtain ⟨f, hf, hfault, _⟩ := hasFault_of_kind hk
    exact ⟨f, (Except.error.inj h).symm.trans hf, hfault⟩
  | ok k =>
    -- only two kinds do not look at the second word
    by_cases ha : k = .arithmetic
    · rw [arg1_of_arithmetic (ha ▸ hk)] at h
      contradiction
    by_cases hr : k = .ret
    · rw [arg1_of_ret (hr ▸ hk)] at h
      exact ⟨_, (Except.error.inj h).symm, .undefinedOperand .arg1 .ret⟩
    cases hw : i.words[1]? with
    | some argument =>
      rw [arg1_of_second_word hk ha hr hw] at h
      contradiction
    | none =>
      rw [arg1_of_no_second_word hk ha hr hw] at h
      exact ⟨_, (Except.error.inj h).symm, .missingArgument (keyword_mem_words hk)⟩

/-- What goes wrong with the second operand is a fault of the instruction, or a numeral that is too
long. -/
lemma hasFault_of_arg2 (h : i.arg2 = .error e) :
    (∃ f, e = i.faulty f ∧ HasFault i f) ∨ ∃ digits, e = .numeralTooLong digits := by
  cases hk : i.kind with
  | error e' =>
    rw [arg2_of_kind_error hk] at h
    obtain ⟨f, hf, hfault, _⟩ := hasFault_of_kind hk
    exact .inl ⟨f, (Except.error.inj h).symm.trans hf, hfault⟩
  | ok k =>
    cases hn : k.hasNumber with
    | false =>
      rw [arg2_of_no_number hk hn] at h
      exact .inl ⟨_, (Except.error.inj h).symm, .undefinedOperand .arg2 k⟩
    | true =>
      match hw : i.words with
      -- the numeral is the third word, if there is one
      | [] | [_] | [_, _] =>
        rw [arg2_of_no_numeral hk hn (by simp [hw])] at h
        exact .inl ⟨_, (Except.error.inj h).symm, .missingNumber (keyword_mem_words hk)⟩
      | w :: argument :: numeral :: ws =>
        rw [arg2_of_numeral hk hn hw] at h
        rcases i.readNumber_cases w argument numeral with ⟨n, hr⟩ | hr | ⟨digits, hr⟩
        · rw [hr] at h
          contradiction
        · rw [hr] at h
          have hfault : HasFault i (.notANumber numeral w argument) :=
            .notANumber (by simp [hw]) (by simp [hw]) (by simp [hw])
          exact .inl ⟨_, (Except.error.inj h).symm, hfault⟩
        · rw [hr] at h
          exact .inr ⟨digits, (Except.error.inj h).symm⟩

/-- Asking for the second operand goes wrong exactly if asking for the kind does. -/
lemma hasArg2_eq_error_iff : i.hasArg2 = .error e ↔ i.kind = .error e := by
  rw [hasArg2]
  cases i.kind with
  | ok k => exact iff_of_false (fun h => by contradiction) (fun h => by contradiction)
  | error e' =>
    show Except.error e' = .error e ↔ _
    rw [Except.error.injEq, Except.error.injEq]

/-- A fault of the kind is an instruction outside the grammar. -/
lemma kind_failure (h : i.kind = .error e) : ∃ f, e = i.faulty f ∧ f.family = .malformed := by
  obtain ⟨f, hf, _, hfam⟩ := hasFault_of_kind h
  exact ⟨f, hf, hfam⟩

lemma arg1_failure (h : i.arg1 = .error e) :
    ∃ f, e = i.faulty f ∧ (f.family = .malformed ∨ f.family = .operandAccess) := by
  obtain ⟨f, hf, hfault⟩ := hasFault_of_arg1 h
  exact ⟨f, hf, hfault.family⟩

lemma arg2_failure (h : i.arg2 = .error e) :
    (∃ f, e = i.faulty f ∧ (f.family = .malformed ∨ f.family = .operandAccess)) ∨
      ∃ digits, e = .numeralTooLong digits := by
  rcases hasFault_of_arg2 h with ⟨f, hf, hfault⟩ | hlong
  · exact .inl ⟨f, hf, hfault.family⟩
  · exact .inr hlong

end HackFrontEnd.Instruction
