import HackFrontEnd.Text.Decimal
import Mathlib.Data.List.Induction
import Mathlib.Data.Nat.Digits.Defs

/-!
# Numerals and what they denote

Reading decides between three kinds of text, and `IsNumeral` says which text is of which kind:

* `read_of_isNumeral`: a numeral of at most 4300 digits is read at its value in base ten
  (`value_eq_ofDigits`), and one with more digits is refused for its length;
* `read_of_not_isNumeral`: every other text is no numeral.

`Numeral n` are the ways to write a natural number: any number of leading zeros that the limit
admits, with or without a plus sign. An integer is written in one way, which no other one has
(`ofInt_inj`), and can be read off the end of a text (`eq_of_append_ofInt_eq`).
-/

namespace HackFrontEnd.Text.Decimal

/-! ## Values in base ten -/

/-- The number that a single digit stands for. -/
def digitValue (c : Char) : Nat := c.toNat - '0'.toNat

lemma toNat_of_isDigit {c : Char} (h : c.isDigit = true) : 48 ≤ c.toNat ∧ c.toNat ≤ 57 := by
  simpa [Char.isDigit, UInt32.le_iff_toNat_le] using h

/-- Digits are read from the left: the first one weighs most. -/
theorem value_eq_ofDigits (digits : List Char) :
    value digits = Nat.ofDigits 10 (digits.map digitValue).reverse := by
  induction digits using List.reverseRecOn with
  | nil => rfl
  | append_singleton digits c ih =>
    rw [value_append_singleton, ih, List.map_append, List.reverse_append, List.map_singleton,
      List.reverse_singleton, List.singleton_append, Nat.ofDigits_cons, Nat.add_comm]
    rfl

/-- Leading zeros do not matter. -/
lemma value_zeros_append (k : Nat) (digits : List Char) :
    value (List.replicate k '0' ++ digits) = value digits := by
  induction k with
  | zero => rfl
  | succ k ih =>
    rw [List.replicate_succ, List.cons_append, ← ih]
    rfl

/-! ## Numerals -/

/-- A text is a numeral with certain digits: at least one, all of them ASCII digits, possibly with a
single plus sign before them. -/
structure IsNumeral (cs digits : List Char) : Prop where
  signed : cs = digits ∨ cs = '+' :: digits
  ne_nil : digits ≠ []
  isDigit : ∀ c ∈ digits, c.isDigit = true

lemma unsigned_of_ne_plus {c : Char} (h : c ≠ '+') (cs : List Char) :
    unsigned (c :: cs) = c :: cs := by
  rw [unsigned]
  exact fun cs' hcs => h (List.cons.inj hcs).1

lemma signed_unsigned (cs : List Char) : cs = unsigned cs ∨ cs = '+' :: unsigned cs := by
  cases cs with
  | nil => exact .inl rfl
  | cons c cs =>
    by_cases h : c = '+'
    · rw [h]
      exact .inr rfl
    · rw [unsigned_of_ne_plus h]
      exact .inl rfl

/-- A digit is no sign, so the digits are what is left. -/
lemma IsNumeral.unsigned_eq {cs digits : List Char} (h : IsNumeral cs digits) :
    unsigned cs = digits := by
  rcases h.signed with rfl | rfl
  · obtain ⟨c, digits, rfl⟩ := List.exists_cons_of_ne_nil h.ne_nil
    have hc : c.isDigit = true := h.isDigit c List.mem_cons_self
    exact unsigned_of_ne_plus (fun hplus => absurd (hplus ▸ hc) (by decide)) digits
  · rfl

/-- The digits of a numeral are what follows the sign. -/
lemma isNumeral_iff {cs digits : List Char} :
    IsNumeral cs digits ↔
      unsigned cs = digits ∧ (digits.isEmpty || !digits.all Char.isDigit) = false := by
  constructor
  · intro h
    refine ⟨h.unsigned_eq, ?_⟩
    have hall : digits.all Char.isDigit = true := List.all_eq_true.mpr h.isDigit
    simp [hall, h.ne_nil]
  · rintro ⟨rfl, hdigits⟩
    rw [Bool.or_eq_false_iff, Bool.not_eq_false', List.all_eq_true] at hdigits
    exact ⟨signed_unsigned cs, by simpa using hdigits.1, hdigits.2⟩

/-- A numeral is read unless it has too many digits. -/
lemma read_of_isNumeral {cs digits : List Char} (h : IsNumeral cs digits) :
    read cs =
      if 4300 < digits.length then .error (.tooLong digits.length) else .ok (value digits) := by
  obtain ⟨hun, hdigits⟩ := isNumeral_iff.mp h
  rw [read, hun]
  simp only [hdigits, Bool.false_eq_true, if_false]
  rfl

/-- Nothing else is read. -/
lemma read_of_not_isNumeral {cs : List Char} (h : ¬∃ digits, IsNumeral cs digits) :
    read cs = .error .notANumeral := by
  have hbad : ((unsigned cs).isEmpty || !(unsigned cs).all Char.isDigit) = true := by
    by_contra hgood
    exact h ⟨_, isNumeral_iff.mpr ⟨rfl, Bool.eq_false_iff.mpr hgood⟩⟩
  rw [read]
  simp only [hbad, if_true]

/-! ## Writing a number -/

/-- A way to write a natural number, within the limit on digits. -/
structure Numeral (n : Nat) where
  plus : Bool
  zeros : Nat
  length_le : zeros + (Nat.toDigits 10 n).length ≤ 4300

namespace Numeral

variable {n : Nat}

def digits (w : Numeral n) : List Char :=
  List.replicate w.zeros '0' ++ Nat.toDigits 10 n

/-- The numeral as it is written. -/
def chars (w : Numeral n) : List Char :=
  if w.plus then '+' :: w.digits else w.digits

lemma isDigit_digits (w : Numeral n) : ∀ c ∈ w.digits, c.isDigit = true := by
  intro c hc
  rcases List.mem_append.mp hc with hc | hc
  · rw [List.eq_of_mem_replicate hc]
    decide
  · exact Nat.isDigit_of_mem_toDigits (by decide) (by decide) hc

/-- A way to write a number is a numeral with its digits. -/
lemma isNumeral_chars (w : Numeral n) : IsNumeral w.chars w.digits where
  signed := by
    rw [chars]
    split
    · exact .inr rfl
    · exact .inl rfl
  ne_nil := fun h => Nat.toDigits_ne_nil (List.append_eq_nil_iff.mp h).2
  isDigit := w.isDigit_digits

lemma value_digits (w : Numeral n) : value w.digits = n := by
  rw [digits, value_zeros_append, value_toDigits]

lemma length_digits_le (w : Numeral n) : w.digits.length ≤ 4300 := by
  rw [digits, List.length_append, List.length_replicate]
  exact w.length_le

end Numeral

/-! ## Writing an integer -/

/-- An integer is written as a sign, if it is below zero, and the digits of its absolute value. -/
lemma toList_ofInt (n : Int) :
    (ofInt n).toList = (if n < 0 then ['-'] else []) ++ Nat.toDigits 10 n.natAbs := by
  cases n with
  | ofNat n =>
    rw [ofInt, ofNat, String.toList_ofList]
    rfl
  | negSucc n =>
    rw [ofInt, ofNat, String.toList_append, String.toList_ofList, String.toList_ofList,
      if_pos (Int.negSucc_lt_zero n)]
    rfl

/-- There are digits in the numeral of an integer, and perhaps a minus sign. -/
lemma isDigit_of_mem_ofInt {n : Int} {c : Char} (h : c ∈ (ofInt n).toList) :
    c.isDigit = true ∨ c = '-' := by
  rw [toList_ofInt, List.mem_append] at h
  rcases h with h | h
  · split at h
    · exact .inr (List.mem_singleton.mp h)
    · contradiction
  · exact .inl (Nat.isDigit_of_mem_toDigits (by decide) (by decide) h)

lemma not_mem_ofInt {c : Char} (hdigit : c.isDigit = false) (hminus : c ≠ '-') (n : Int) :
    c ∉ (ofInt n).toList := by
  intro hmem
  rcases isDigit_of_mem_ofInt hmem with hc | hc
  · rw [hc] at hdigit
    contradiction
  · exact hminus hc

lemma toList_ofInt_ne_nil (n : Int) : (ofInt n).toList ≠ [] := by
  rw [toList_ofInt]
  exact List.append_ne_nil_of_right_ne_nil _ Nat.toDigits_ne_nil

lemma toDigits_inj {m n : Nat} (h : Nat.toDigits 10 m = Nat.toDigits 10 n) : m = n :=
  ofNat_inj (congrArg String.ofList h)

/-- No natural number is written with a minus sign. -/
lemma minus_cons_ne_toDigits (digits : List Char) (n : Nat) :
    '-' :: digits ≠ Nat.toDigits 10 n := by
  intro h
  have hmem : '-' ∈ Nat.toDigits 10 n := h ▸ List.mem_cons_self
  have hdigit := Nat.isDigit_of_mem_toDigits (by decide) (by decide) hmem
  contradiction

/-- Different integers have different numerals. -/
theorem ofInt_inj {m n : Int} (h : ofInt m = ofInt n) : m = n := by
  have hlist := congrArg String.toList h
  rw [toList_ofInt, toList_ofInt] at hlist
  -- both are below zero, or just one of them is, or neither
  split at hlist <;> split at hlist
  · have habs := toDigits_inj (List.cons.inj hlist).2
    omega
  · exact absurd hlist (minus_cons_ne_toDigits _ _)
  · exact absurd hlist.symm (minus_cons_ne_toDigits _ _)
  · have habs := toDigits_inj hlist
    omega

/-- Behind the last separator there is no other one, so nothing stands between the two. -/
lemma eq_nil_of_cons_eq_append_cons {c : Char} {between behind behind' : List Char}
    (hlast : c ∉ behind) (h : c :: behind = between ++ c :: behind') : between = [] := by
  cases between with
  | nil => rfl
  | cons d between =>
    rw [List.cons_append, List.cons.injEq] at h
    rw [h.2] at hlast
    exact absurd (List.mem_append_right between List.mem_cons_self) hlast

/-- The last separator of a text stands in one place only. -/
lemma eq_of_append_cons_eq {c : Char} {before before' behind behind' : List Char}
    (hbehind : c ∉ behind) (hbehind' : c ∉ behind')
    (h : before ++ c :: behind = before' ++ c :: behind') :
    before = before' ∧ behind = behind' := by
  have hbefore : before = before' := by
    -- one of the two starts is at least as long as the other, and what makes it longer stands
    -- between separators
    rcases List.append_eq_append_iff.mp h with ⟨between, hlong, hcons⟩ | ⟨between, hlong, hcons⟩
    · rw [hlong, eq_nil_of_cons_eq_append_cons hbehind hcons, List.append_nil]
    · rw [hlong, eq_nil_of_cons_eq_append_cons hbehind' hcons, List.append_nil]
  rw [hbefore] at h
  exact ⟨hbefore, (List.cons.inj (List.append_cancel_left h)).2⟩

/-- A text that ends with an integer tells it, and what stands before it, if something separates
them. -/
theorem eq_of_append_ofInt_eq {c : Char} (hdigit : c.isDigit = false) (hminus : c ≠ '-')
    {before before' : List Char} {m n : Int}
    (h : before ++ c :: (ofInt m).toList = before' ++ c :: (ofInt n).toList) :
    before = before' ∧ m = n := by
  obtain ⟨hbefore, hnumeral⟩ :=
    eq_of_append_cons_eq (not_mem_ofInt hdigit hminus m) (not_mem_ofInt hdigit hminus n) h
  exact ⟨hbefore, ofInt_inj (String.toList_inj.mp hnumeral)⟩

/-- A number below a power of ten has no more digits than this power has zeros. -/
lemma length_ofInt_le {n : Int} {width : Nat} (hwidth : 0 < width) (hn : 0 ≤ n)
    (h : n < 10 ^ width) : (ofInt n).length ≤ width := by
  rw [← String.length_toList, toList_ofInt, if_neg (Int.not_lt.mpr hn), List.nil_append,
    Nat.length_toDigits_le_iff (by decide) hwidth]
  zify
  rwa [abs_of_nonneg hn]

end HackFrontEnd.Text.Decimal
