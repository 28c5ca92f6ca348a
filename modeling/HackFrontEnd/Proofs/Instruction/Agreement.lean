import HackFrontEnd.Proofs.Instruction.Grammar

/-!
# One classification

An instruction can be asked for its kind, for either operand and for a description, and each of
these looks at the kind for itself. They agree on what it carries:

* `arg1_undefined_iff`, `arg2_undefined_iff`: which kinds have no such operand, whatever the words
  of the instruction are;
* `describe_of_ok`: a description holds the operands that can be asked for;
* `describe_eq_error_iff`: of several things at fault, it reports the first one in the order of the
  questions;
* `describe_agrees_with_questions`: all of that together.
-/

namespace HackFrontEnd

/-- The error says that instructions of this kind have no such operand. -/
def ReadError.IsOperandAccess (e : ReadError) : Prop :=
  ∃ d, e = .diagnostic d ∧ d.fault.family = .operandAccess

namespace Instruction

variable {i : Instruction} {k : Kind} {e : ReadError}

/-- The family of a fault tells whether it is about an operand that is undefined. -/
lemma isOperandAccess_faulty_iff {f : Fault} :
    (i.faulty f).IsOperandAccess ↔ f.family = .operandAccess := by
  constructor
  · rintro ⟨d, hd, hfamily⟩
    rwa [← ReadError.diagnostic.inj hd] at hfamily
  · exact fun h => ⟨_, rfl, h⟩

lemma not_isOperandAccess_of_malformed {f : Fault} (h : f.family = .malformed) :
    ¬(i.faulty f).IsOperandAccess := by
  rw [isOperandAccess_faulty_iff, h]
  decide

lemma not_isOperandAccess_tooLong (digits : Nat) :
    ¬(ReadError.numeralTooLong digits).IsOperandAccess := by
  rintro ⟨d, hd, _⟩
  contradiction

/-! ## Which operands a kind has -/

/-- An instruction that may have a first operand has one or lacks a word. -/
lemma arg1_of_ne_ret (hk : i.kind = .ok k) (hr : k ≠ .ret) :
    (∃ argument, i.arg1 = .ok argument) ∨ ∃ e, i.arg1 = .error e ∧ ¬e.IsOperandAccess := by
  by_cases ha : k = .arithmetic
  · exact .inl ⟨_, arg1_of_arithmetic (ha ▸ hk)⟩
  cases hw : i.words[1]? with
  | some argument => exact .inl ⟨argument, arg1_of_second_word hk ha hr hw⟩
  | none =>
    have h1 := arg1_of_no_second_word hk ha hr hw
    exact .inr ⟨_, h1, not_isOperandAccess_of_malformed rfl⟩

/-- An instruction that may have a second operand has one, or lacks a word that can be read as a
number. -/
lemma arg2_of_hasNumber (hk : i.kind = .ok k) (hn : k.hasNumber = true) :
    (∃ n, i.arg2 = .ok n) ∨ ∃ e, i.arg2 = .error e ∧ ¬e.IsOperandAccess := by
  match hw : i.words with
  | [] | [_] | [_, _] =>
    have h2 := arg2_of_no_numeral hk hn (by simp [hw])
    exact .inr ⟨_, h2, not_isOperandAccess_of_malformed rfl⟩
  | w :: argument :: numeral :: ws =>
    rw [arg2_of_numeral hk hn hw]
    rcases i.readNumber_cases w argument numeral with ⟨n, hread⟩ | hread | ⟨digits, hread⟩
    · exact .inl ⟨n, hread⟩
    · exact .inr ⟨_, hread, not_isOperandAccess_of_malformed rfl⟩
    · exact .inr ⟨_, hread, not_isOperandAccess_tooLong digits⟩

/-- Returning is the only kind without a first operand. -/
theorem arg1_undefined_iff (hk : i.kind = .ok k) :
    (∃ e, i.arg1 = .error e ∧ e.IsOperandAccess) ↔ k = .ret := by
  constructor
  · rintro ⟨e, he, haccess⟩
    by_contra hr
    rcases arg1_of_ne_ret hk hr with ⟨argument, hok⟩ | ⟨e', he', hnot⟩
    · rw [hok] at he
      contradiction
    · rw [he'] at he
      exact hnot (Except.error.inj he ▸ haccess)
  · rintro rfl
    exact ⟨_, arg1_of_ret hk, isOperandAccess_faulty_iff.mpr rfl⟩

/-- The second operand is undefined exactly if the instruction says that it has none. -/
theorem arg2_undefined_iff (hk : i.kind = .ok k) :
    (∃ e, i.arg2 = .error e ∧ e.IsOperandAccess) ↔ i.hasArg2 = .ok false := by
  have hhas : i.hasArg2 = .ok k.hasNumber := by
    rw [hasArg2, hk]
    rfl
  rw [hhas, Except.ok.injEq]
  cases hn : k.hasNumber with
  | false =>
    refine iff_of_true ⟨_, arg2_of_no_number hk hn, ?_⟩ rfl
    exact isOperandAccess_faulty_iff.mpr rfl
  | true =>
    refine iff_of_false ?_ Bool.true_eq_false.mp
    rintro ⟨e, he, haccess⟩
    rcases arg2_of_hasNumber hk hn with ⟨n, hok⟩ | ⟨e', he', hnot⟩
    · rw [hok] at he
      contradiction
    · rw [he'] at he
      exact hnot (Except.error.inj he ▸ haccess)

/-! ## Descriptions -/

/-- A description holds the operands that the instruction gives when it is asked for them. -/
theorem describe_of_ok {entry : Listing.Entry} (h : i.describe = .ok entry) :
    entry.arg1 = i.arg1.toOption ∧ entry.arg2 = i.arg2.toOption.map Int.ofNat := by
  -- the cases follow the order of the questions: the kind, then the first operand, then the second
  cases hk : i.kind with
  | error e =>
    rw [describe_of_kind_error hk] at h
    contradiction
  | ok k =>
    by_cases hr : k = .ret
    · subst hr
      rw [describe_of_ret hk] at h
      rw [← Except.ok.inj h, arg1_of_ret hk, arg2_of_no_number hk rfl]
      exact ⟨rfl, rfl⟩
    cases hn : k.hasNumber with
    | false =>
      rw [describe_of_no_number hk hr hn] at h
      cases h1 : i.arg1 with
      | error e =>
        rw [h1] at h
        contradiction
      | ok argument =>
        rw [h1] at h
        rw [← Except.ok.inj h, arg2_of_no_number hk hn]
        exact ⟨rfl, rfl⟩
    | true =>
      rw [describe_of_number hk hn] at h
      cases h1 : i.arg1 with
      | error e =>
        rw [h1] at h
        contradiction
      | ok argument =>
        cases h2 : i.arg2 with
        | error e =>
          rw [h1, h2] at h
          contradiction
        | ok n =>
          rw [h1, h2] at h
          rw [← Except.ok.inj h]
          exact ⟨rfl, rfl⟩

/-- The error that comes out first when the instruction is asked for its kind, then for its first
and then for its second operand. It does not count if the kind has no first operand. -/
def FirstError (i : Instruction) (e : ReadError) : Prop :=
  i.kind = .error e ∨
    (∃ k, i.kind = .ok k) ∧
      (i.arg1 = .error e ∧ ¬e.IsOperandAccess ∨
        (∀ e', i.arg1 = .error e' → e'.IsOperandAccess) ∧ i.arg2 = .error e)

lemma describe_of_arg1_error (hk : i.kind = .ok k) (hr : k ≠ .ret) (h1 : i.arg1 = .error e) :
    i.describe = .error e := by
  cases hn : k.hasNumber with
  | false =>
    rw [describe_of_no_number hk hr hn, h1]
    rfl
  | true =>
    rw [describe_of_number hk hn, h1]
    rfl

lemma describe_of_arg2_error {argument : String} (hk : i.kind = .ok k) (hn : k.hasNumber = true)
    (h1 : i.arg1 = .ok argument) (h2 : i.arg2 = .error e) : i.describe = .error e := by
  rw [describe_of_number hk hn, h1, h2]
  rfl

/-- What keeps an instruction with a kind from being described is its first operand, or else its
second one. -/
lemma error_of_describe (hk : i.kind = .ok k) (h : i.describe = .error e) :
    i.arg1 = .error e ∨ (∃ argument, i.arg1 = .ok argument) ∧ i.arg2 = .error e := by
  have hr : k ≠ .ret := by
    rintro rfl
    rw [describe_of_ret hk] at h
    contradiction
  cases h1 : i.arg1 with
  | error e' =>
    rw [describe_of_arg1_error hk hr h1] at h
    exact .inl (congrArg Except.error (Except.error.inj h))
  | ok argument =>
    refine .inr ⟨⟨argument, rfl⟩, ?_⟩
    cases hn : k.hasNumber with
    | false =>
      rw [describe_of_no_number hk hr hn, h1] at h
      contradiction
    | true =>
      cases h2 : i.arg2 with
      | ok n =>
        rw [describe_of_number hk hn, h1, h2] at h
        contradiction
      | error e' =>
        rw [describe_of_arg2_error hk hn h1 h2] at h
        exact congrArg Except.error (Except.error.inj h)

/-- Describing never asks for an operand that is undefined. -/
lemma not_isOperandAccess_of_describe (h : i.describe = .error e) : ¬e.IsOperandAccess := by
  rcases describe_failure h with ⟨digits, rfl⟩ | ⟨f, rfl, hfamily⟩
  · exact not_isOperandAccess_tooLong digits
  · exact not_isOperandAccess_of_malformed hfamily

lemma firstError_of_describe (h : i.describe = .error e) : i.FirstError e := by
  cases hk : i.kind with
  | error e' =>
    rw [describe_of_kind_error hk] at h
    exact .inl (Except.error.inj h ▸ hk)
  | ok k =>
    refine .inr ⟨⟨k, hk⟩, ?_⟩
    rcases error_of_describe hk h with h1 | ⟨⟨argument, h1⟩, h2⟩
    · exact .inl ⟨h1, not_isOperandAccess_of_describe h⟩
    · refine .inr ⟨fun e' he' => ?_, h2⟩
      rw [h1] at he'
      contradiction

/-- The first error is what describing reports, if it is not about an operand that is undefined. -/
lemma describe_of_firstError (h : i.FirstError e) (hnot : ¬e.IsOperandAccess) :
    i.describe = .error e := by
  rcases h with hkind | ⟨⟨k, hk⟩, ⟨h1, _⟩ | ⟨hnone, h2⟩⟩
  · exact describe_of_kind_error hkind
  -- a first operand that fails in earnest is one that the kind has
  · have hr : k ≠ .ret := by
      intro hret
      obtain ⟨e', he', haccess⟩ := (arg1_undefined_iff hk).mpr hret
      rw [h1] at he'
      exact hnot (Except.error.inj he' ▸ haccess)
    exact describe_of_arg1_error hk hr h1
  -- and so is a second one
  · have hn : k.hasNumber = true := by
      by_contra hn
      rw [arg2_of_no_number hk (Bool.eq_false_iff.mpr hn)] at h2
      exact hnot (Except.error.inj h2 ▸ isOperandAccess_faulty_iff.mpr rfl)
    have hr : k ≠ .ret := by
      rintro rfl
      contradiction
    rcases arg1_of_ne_ret hk hr with ⟨argument, h1⟩ | ⟨e', he', hdefined⟩
    · exact describe_of_arg2_error hk hn h1 h2
    · exact absurd (hnone e' he') hdefined

/-- Describing reports the first error, and never that an operand is undefined. -/
theorem describe_eq_error_iff :
    i.describe = .error e ↔ i.FirstError e ∧ ¬e.IsOperandAccess := by
  constructor
  · exact fun h => ⟨firstError_of_describe h, not_isOperandAccess_of_describe h⟩
  · exact fun ⟨h, hnot⟩ => describe_of_firstError h hnot

/-! ## All questions together -/

/-- Describing an instruction and asking it for its kind and its operands come to the same. A fault
of the kind is the answer to every question. Otherwise the kind alone settles which operands are
undefined; a description holds the operands that can be asked for; and what it reports is the first
error, which is never that an operand is undefined. -/
theorem describe_agrees_with_questions (i : Instruction) :
    (∀ e, i.kind = .error e →
        i.arg1 = .error e ∧ i.arg2 = .error e ∧ i.hasArg2 = .error e ∧ i.describe = .error e) ∧
      (∀ k, i.kind = .ok k →
        ((∃ e, i.arg1 = .error e ∧ e.IsOperandAccess) ↔ k = .ret) ∧
        ((∃ e, i.arg2 = .error e ∧ e.IsOperandAccess) ↔ i.hasArg2 = .ok false)) ∧
      (∀ entry, i.describe = .ok entry →
        entry.arg1 = i.arg1.toOption ∧ entry.arg2 = i.arg2.toOption.map Int.ofNat) ∧
      ∀ e, i.describe = .error e ↔ i.FirstError e ∧ ¬e.IsOperandAccess := by
  refine ⟨fun e he => ?_, fun k hk => ?_, fun entry => describe_of_ok,
    fun e => describe_eq_error_iff⟩
  · exact ⟨arg1_of_kind_error he, arg2_of_kind_error he, hasArg2_eq_error_iff.mpr he,
      describe_of_kind_error he⟩
  · exact ⟨arg1_undefined_iff hk, arg2_undefined_iff hk⟩

end Instruction

end HackFrontEnd
