import HackFrontEnd.Proofs.Instruction.Operands
import HackFrontEnd.Proofs.Text.Numeral
import HackFrontEnd.Proofs.Text.Words

/-!
# The grammar of instructions

A `Statement` is what an instruction of the language says, apart from how it is written. `Says` is
the grammar: it relates the words of an instruction to the statement they make, and takes no notice
of words that follow.

* `Kind.ofKeyword?_eq_some_iff`: the keywords, by the kind of statement they begin;
* `describe_of_statement`, `describe_of_overlong`: what describing an instruction gives when its
  words make a statement, and when they would but for the length of a numeral;
* `says_or_overlong_or_malformed`: in every other case the instruction is at fault;
* `arg2_cases`: the same three cases where only the second operand is asked for;
* `describe_accepts_grammar`: so describing succeeds exactly on the grammar.
-/

namespace HackFrontEnd

open Text

/-! ## Statements -/

/-- The operators, each of which is a statement by itself. -/
inductive Operator
  | add
  | sub
  | neg
  | eq
  | gt
  | lt
  | and
  | or
  | not
deriving DecidableEq, Repr

/-- An operator as it is written. -/
def Operator.text : Operator → String
  | add => "add"
  | sub => "sub"
  | neg => "neg"
  | eq => "eq"
  | gt => "gt"
  | lt => "lt"
  | and => "and"
  | or => "or"
  | not => "not"

/-- The keywords of statements that name a label. -/
inductive LabelKeyword
  | label
  | goto
  | ifGoto
deriving DecidableEq, Repr

namespace LabelKeyword

/-- A keyword as it is written. -/
def text : LabelKeyword → String
  | label => "label"
  | goto => "goto"
  | ifGoto => "if-goto"

/-- The kind of the statements that a keyword begins. -/
def kind : LabelKeyword → Kind
  | label => .label
  | goto => .goto
  | ifGoto => .ifGoto

end LabelKeyword

/-- The keywords of statements that have a number. -/
inductive NumberKeyword
  | push
  | pop
  | function
  | call
deriving DecidableEq, Repr

namespace NumberKeyword

/-- A keyword as it is written. -/
def text : NumberKeyword → String
  | push => "push"
  | pop => "pop"
  | function => "function"
  | call => "call"

/-- The kind of the statements that a keyword begins. -/
def kind : NumberKeyword → Kind
  | push => .push
  | pop => .pop
  | function => .function
  | call => .call

end NumberKeyword

/-- What an instruction says. -/
inductive Statement
  | arithmetic (operator : Operator)
  | ret
  | label (keyword : LabelKeyword) (name : Word)
  | number (keyword : NumberKeyword) (name : Word) (n : Nat)
deriving DecidableEq

namespace Statement

/-- The kind of instruction that makes a statement. -/
def kind : Statement → Kind
  | arithmetic _ => .arithmetic
  | ret => .ret
  | label keyword _ => keyword.kind
  | number keyword _ _ => keyword.kind

/-- The name that a listing has for the type of a statement. -/
def typeName : Statement → String
  | arithmetic _ => "ARITHMETIC"
  | ret => "RETURN"
  | label .label _ => "LABEL"
  | label .goto _ => "GOTO"
  | label .ifGoto _ => "IF"
  | number .push .. => "PUSH"
  | number .pop .. => "POP"
  | number .function .. => "FUNCTION"
  | number .call .. => "CALL"

/-- The first operand: an arithmetic statement gives its operator. -/
def arg1 : Statement → Option String
  | arithmetic operator => some operator.text
  | ret => none
  | label _ name => some name.text
  | number _ name _ => some name.text

/-- The second operand, which only some statements have. -/
def arg2 : Statement → Option Nat
  | number _ _ n => some n
  | _ => none

/-- The line of a listing that tells of the statement. -/
def entry (s : Statement) (line : Int) (text : String) : Listing.Entry where
  line := line
  kind := s.typeName
  text := text
  arg1 := s.arg1
  arg2 := s.arg2.map Int.ofNat

/-- The type of a statement goes by the name of its kind. -/
lemma typeName_eq (s : Statement) : s.typeName = s.kind.name := by
  cases s with
  | arithmetic operator => rfl
  | ret => rfl
  | label keyword name => cases keyword <;> rfl
  | number keyword name n => cases keyword <;> rfl

end Statement

/-! ## The grammar -/

/-- The statement that the words of an instruction make. Words that follow it are ignored. -/
inductive Says : List String → Statement → Prop
  | arithmetic (operator : Operator) (rest : List String) :
      Says (operator.text :: rest) (.arithmetic operator)
  | ret (rest : List String) : Says ("return" :: rest) .ret
  | label (keyword : LabelKeyword) (name : Word) (rest : List String) :
      Says (keyword.text :: name.text :: rest) (.label keyword name)
  | number (keyword : NumberKeyword) (name : Word) {numeral : String} {digits : List Char}
      (rest : List String) (isNumeral : Decimal.IsNumeral numeral.toList digits)
      (length_le : digits.length ≤ 4300) :
      Says (keyword.text :: name.text :: numeral :: rest)
        (.number keyword name (Nat.ofDigits 10 (digits.map Decimal.digitValue).reverse))

/-- The words would make a statement if its numeral did not have this many digits. -/
inductive Overlong : List String → Nat → Prop
  | number (keyword : NumberKeyword) (name : Word) {numeral : String} {digits : List Char}
      (rest : List String) (isNumeral : Decimal.IsNumeral numeral.toList digits)
      (lt_length : 4300 < digits.length) :
      Overlong (keyword.text :: name.text :: numeral :: rest) digits.length

/-! ## Keywords -/

/-- The keywords are those of the table, each with one kind. -/
theorem Kind.ofKeyword?_eq_some_iff {w : String} {k : Kind} :
    Kind.ofKeyword? w = some k ↔ (w, k) ∈ keywords := by
  constructor
  · intro h
    obtain ⟨before, after, heq, _⟩ := List.lookup_eq_some_iff.mp h
    rw [heq]
    exact List.mem_append_right before List.mem_cons_self
  · have hall : ∀ p ∈ keywords, Kind.ofKeyword? p.1 = some p.2 := by decide +kernel
    exact fun h => hall (w, k) h

/-- The operators are those of the table, no more and no fewer. -/
theorem Operator.exists_text_iff {w : String} :
    (∃ operator : Operator, w = operator.text) ↔ w ∈ arithmeticOperators := by
  constructor
  · rintro ⟨operator, rfl⟩
    cases operator <;> decide
  · intro h
    simp only [arithmeticOperators, List.mem_cons, List.not_mem_nil, or_false] at h
    rcases h with rfl | rfl | rfl | rfl | rfl | rfl | rfl | rfl | rfl
    · exact ⟨.add, rfl⟩
    · exact ⟨.and, rfl⟩
    · exact ⟨.eq, rfl⟩
    · exact ⟨.gt, rfl⟩
    · exact ⟨.lt, rfl⟩
    · exact ⟨.neg, rfl⟩
    · exact ⟨.not, rfl⟩
    · exact ⟨.or, rfl⟩
    · exact ⟨.sub, rfl⟩

/-- A keyword begins a statement of one of four forms. -/
lemma Kind.ofKeyword?_cases {w : String} {k : Kind} (h : Kind.ofKeyword? w = some k) :
    (∃ operator : Operator, w = operator.text) ∨ w = "return" ∨
      (∃ keyword : LabelKeyword, w = keyword.text) ∨
      ∃ keyword : NumberKeyword, w = keyword.text := by
  have hmem : (w, k) ∈ keywords := Kind.ofKeyword?_eq_some_iff.mp h
  rw [keywords, List.mem_append] at hmem
  rcases hmem with hmem | hmem
  · obtain ⟨operator, hop, heq⟩ := List.mem_map.mp hmem
    rw [← show operator = w from congrArg Prod.fst heq]
    exact .inl (Operator.exists_text_iff.mpr hop)
  · simp only [List.mem_cons, Prod.mk.injEq, List.not_mem_nil, or_false] at hmem
    rcases hmem with ⟨rfl, _⟩ | ⟨rfl, _⟩ | ⟨rfl, _⟩ | ⟨rfl, _⟩ | ⟨rfl, _⟩ | ⟨rfl, _⟩ |
      ⟨rfl, _⟩ | ⟨rfl, _⟩
    · exact .inr (.inr (.inr ⟨.push, rfl⟩))
    · exact .inr (.inr (.inr ⟨.pop, rfl⟩))
    · exact .inr (.inr (.inl ⟨.label, rfl⟩))
    · exact .inr (.inr (.inl ⟨.goto, rfl⟩))
    · exact .inr (.inr (.inl ⟨.ifGoto, rfl⟩))
    · exact .inr (.inr (.inr ⟨.function, rfl⟩))
    · exact .inr (.inr (.inr ⟨.call, rfl⟩))
    · exact .inr (.inl rfl)

/-- Every operator is the keyword of an arithmetic instruction. -/
lemma Operator.ofKeyword?_text (operator : Operator) :
    Kind.ofKeyword? operator.text = some .arithmetic := by
  have hmem : operator.text ∈ arithmeticOperators := Operator.exists_text_iff.mp ⟨operator, rfl⟩
  rw [Kind.ofKeyword?_eq_some_iff, keywords]
  exact List.mem_append_left _ (List.mem_map.mpr ⟨operator.text, hmem, rfl⟩)

lemma LabelKeyword.ofKeyword?_text (keyword : LabelKeyword) :
    Kind.ofKeyword? keyword.text = some keyword.kind := by
  cases keyword <;> decide +kernel

lemma NumberKeyword.ofKeyword?_text (keyword : NumberKeyword) :
    Kind.ofKeyword? keyword.text = some keyword.kind := by
  cases keyword <;> decide +kernel

lemma LabelKeyword.hasNumber_kind (keyword : LabelKeyword) : keyword.kind.hasNumber = false := by
  cases keyword <;> rfl

/-- A statement about a label has its first operand in the second word. -/
lemma LabelKeyword.kind_ne (keyword : LabelKeyword) :
    keyword.kind ≠ .arithmetic ∧ keyword.kind ≠ .ret := by
  cases keyword <;> decide

lemma NumberKeyword.hasNumber_kind (keyword : NumberKeyword) : keyword.kind.hasNumber = true := by
  cases keyword <;> rfl

lemma NumberKeyword.kind_ne (keyword : NumberKeyword) :
    keyword.kind ≠ .arithmetic ∧ keyword.kind ≠ .ret := by
  cases keyword <;> decide

/-! ## Describing an instruction -/

namespace Instruction

variable {i : Instruction} {s : Statement} {n : Nat} {w : String} {rest : List String}

/-- The words of an instruction are words. -/
lemma exists_word_of_mem (h : w ∈ i.words) : ∃ word : Word, word.text = w := by
  obtain ⟨cs, hcs, rfl⟩ := List.mem_map.mp h
  exact Word.exists_of_mem hcs

/-- The words of an instruction are those that its text consists of. -/
lemma words_of_consistsOf {ws : List Word} (h : ConsistsOf i.text.toList ws) :
    i.words = ws.map Word.text := by
  rw [words, h.words_eq, List.map_map]
  rfl

/-- A numeral is read as the number it denotes in base ten, unless it has more than 4300 digits. -/
lemma readNumber_of_isNumeral {keyword argument numeral : String} {digits : List Char}
    (h : Decimal.IsNumeral numeral.toList digits) :
    i.readNumber keyword argument numeral =
      if 4300 < digits.length then .error (.numeralTooLong digits.length)
      else .ok (Nat.ofDigits 10 (digits.map Decimal.digitValue).reverse) := by
  rw [readNumber, Decimal.read_of_isNumeral h, Decimal.value_eq_ofDigits]
  split_ifs <;> rfl

lemma readNumber_of_not_isNumeral {keyword argument numeral : String}
    (h : ¬∃ digits, Decimal.IsNumeral numeral.toList digits) :
    i.readNumber keyword argument numeral =
      .error (i.faulty (.notANumber numeral keyword argument)) := by
  rw [readNumber, Decimal.read_of_not_isNumeral h]

/-- With an operand in the third place, that operand is what is asked for. -/
lemma arg2_of_number_keyword {keyword : NumberKeyword} {argument numeral : String}
    (hw : i.words = keyword.text :: argument :: numeral :: rest) :
    i.arg2 = i.readNumber keyword.text argument numeral :=
  arg2_of_numeral (kind_of_keyword hw keyword.ofKeyword?_text) keyword.hasNumber_kind hw

/-- With an operand in the third place, all is up to that operand. -/
lemma describe_of_number_keyword {keyword : NumberKeyword} {argument numeral : String}
    (hw : i.words = keyword.text :: argument :: numeral :: rest) :
    i.describe = (i.readNumber keyword.text argument numeral).map fun n =>
      { line := i.line, kind := keyword.kind.name, text := i.text, arg1 := some argument,
        arg2 := some (Int.ofNat n) } := by
  have hk : i.kind = .ok keyword.kind := kind_of_keyword hw keyword.ofKeyword?_text
  have h1 : i.arg1 = .ok argument :=
    arg1_of_second_word hk keyword.kind_ne.1 keyword.kind_ne.2 (by rw [hw]; rfl)
  rw [describe_of_number hk keyword.hasNumber_kind, h1, arg2_of_number_keyword hw]
  rfl

/-- An instruction that says something is described by what it says. -/
theorem describe_of_statement (h : Says i.words s) : i.describe = .ok (s.entry i.line i.text) := by
  rw [Statement.entry, Statement.typeName_eq]
  -- the grammar is about the words alone, and the cases are its rules
  generalize hw : i.words = ws at h
  cases h with
  | arithmetic operator rest =>
    have hk : i.kind = .ok .arithmetic := kind_of_keyword hw operator.ofKeyword?_text
    rw [describe_of_no_number hk (by decide) rfl, arg1_of_arithmetic hk, keyword_eq hw]
    rfl
  | ret rest =>
    have hk : i.kind = .ok .ret := kind_of_keyword hw (by decide +kernel)
    rw [describe_of_ret hk]
    rfl
  | label keyword name rest =>
    have hk : i.kind = .ok keyword.kind := kind_of_keyword hw keyword.ofKeyword?_text
    have h1 : i.arg1 = .ok name.text :=
      arg1_of_second_word hk keyword.kind_ne.1 keyword.kind_ne.2 (by rw [hw]; rfl)
    rw [describe_of_no_number hk keyword.kind_ne.2 keyword.hasNumber_kind, h1]
    rfl
  | number keyword name rest isNumeral length_le =>
    rw [describe_of_number_keyword hw, readNumber_of_isNumeral isNumeral,
      if_neg (Nat.not_lt.mpr length_le)]
    rfl

/-- An instruction that would say something but for the length of its numeral fails for that
length. -/
theorem describe_of_overlong (h : Overlong i.words n) :
    i.describe = .error (.numeralTooLong n) := by
  generalize hw : i.words = ws at h
  cases h with
  | number keyword name rest isNumeral lt_length =>
    rw [describe_of_number_keyword hw, readNumber_of_isNumeral isNumeral, if_pos lt_length]
    rfl

/-- An instruction with the keyword of a label names one, or it is at fault. -/
lemma says_or_malformed_of_label {keyword : LabelKeyword} (hw : i.words = keyword.text :: rest) :
    (∃ s, Says i.words s) ∨
      i.describe = .error (i.faulty (.missingArgument keyword.text)) := by
  have hk : i.kind = .ok keyword.kind := kind_of_keyword hw keyword.ofKeyword?_text
  cases rest with
  | nil =>
    have h1 : i.arg1 = .error (i.faulty (.missingArgument i.keyword)) :=
      arg1_of_no_second_word hk keyword.kind_ne.1 keyword.kind_ne.2 (by rw [hw]; rfl)
    rw [describe_of_no_number hk keyword.kind_ne.2 keyword.hasNumber_kind, h1, keyword_eq hw]
    exact .inr rfl
  | cons argument rest =>
    obtain ⟨name, rfl⟩ := exists_word_of_mem (i := i) (w := argument) (by rw [hw]; simp)
    rw [hw]
    exact .inl ⟨_, .label keyword name rest⟩

/-- With two operands the second of which is a numeral, an instruction says something, or would but
for the length of the numeral. -/
lemma says_or_overlong_or_notANumber {keyword : NumberKeyword} {argument numeral : String}
    (hw : i.words = keyword.text :: argument :: numeral :: rest) :
    (∃ name n, Says i.words (.number keyword name n)) ∨ (∃ n, Overlong i.words n) ∨
      i.readNumber keyword.text argument numeral =
        .error (i.faulty (.notANumber numeral keyword.text argument)) := by
  obtain ⟨name, rfl⟩ := exists_word_of_mem (i := i) (w := argument) (by rw [hw]; simp)
  by_cases hnum : ∃ digits, Decimal.IsNumeral numeral.toList digits
  · obtain ⟨digits, hd⟩ := hnum
    rw [hw]
    rcases Nat.lt_or_ge 4300 digits.length with hlen | hlen
    · exact .inr (.inl ⟨_, .number keyword name rest hd hlen⟩)
    · exact .inl ⟨name, _, .number keyword name rest hd hlen⟩
  · exact .inr (.inr (readNumber_of_not_isNumeral hnum))

/-- An instruction with the keyword of a number has both operands and a numeral, or it is at
fault. -/
lemma says_or_overlong_or_malformed_of_number {keyword : NumberKeyword}
    (hw : i.words = keyword.text :: rest) :
    (∃ s, Says i.words s) ∨ (∃ n, Overlong i.words n) ∨
      ∃ f, i.describe = .error (i.faulty f) ∧ f.family = .malformed := by
  have hk : i.kind = .ok keyword.kind := kind_of_keyword hw keyword.ofKeyword?_text
  have hdescribe := describe_of_number hk keyword.hasNumber_kind
  match rest with
  | [] =>
    have h1 : i.arg1 = .error (i.faulty (.missingArgument i.keyword)) :=
      arg1_of_no_second_word hk keyword.kind_ne.1 keyword.kind_ne.2 (by rw [hw]; rfl)
    rw [h1] at hdescribe
    exact .inr (.inr ⟨_, hdescribe, rfl⟩)
  | [argument] =>
    have h1 : i.arg1 = .ok argument :=
      arg1_of_second_word hk keyword.kind_ne.1 keyword.kind_ne.2 (by rw [hw]; rfl)
    have h2 : i.arg2 = .error (i.faulty (.missingNumber i.keyword)) :=
      arg2_of_no_numeral hk keyword.hasNumber_kind (by rw [hw]; simp)
    rw [h1, h2] at hdescribe
    exact .inr (.inr ⟨_, hdescribe, rfl⟩)
  -- both operands are there, so it is up to the numeral
  | argument :: numeral :: rest =>
    rcases says_or_overlong_or_notANumber hw with ⟨name, n, hsays⟩ | hlong | hread
    · exact .inl ⟨_, hsays⟩
    · exact .inr (.inl hlong)
    · have hfault := describe_of_number_keyword hw
      rw [hread] at hfault
      exact .inr (.inr ⟨_, hfault, rfl⟩)

/-- An instruction says something, says something with a numeral that is too long, or is at
fault. -/
theorem says_or_overlong_or_malformed (i : Instruction) :
    (∃ s, Says i.words s) ∨ (∃ n, Overlong i.words n) ∨
      ∃ f, i.describe = .error (i.faulty f) ∧ f.family = .malformed := by
  -- Without a kind there is no statement. With one, the keyword tells which rule of the grammar can
  -- apply.
  cases hk : i.kind with
  | error e =>
    obtain ⟨f, rfl, hfam⟩ := kind_failure hk
    exact .inr (.inr ⟨f, describe_of_kind_error hk, hfam⟩)
  | ok k =>
    obtain ⟨w, rest, hw, hkeyword⟩ := kind_eq_ok_iff.mp hk
    rcases Kind.ofKeyword?_cases hkeyword with
      ⟨operator, rfl⟩ | rfl | ⟨keyword, rfl⟩ | ⟨keyword, rfl⟩
    · rw [hw]
      exact .inl ⟨_, .arithmetic operator rest⟩
    · rw [hw]
      exact .inl ⟨_, .ret rest⟩
    · rcases says_or_malformed_of_label hw with hsays | hfault
      · exact .inl hsays
      · exact .inr (.inr ⟨_, hfault, rfl⟩)
    · exact says_or_overlong_or_malformed_of_number hw

/-- Only what an instruction says is described. -/
theorem describe_eq_ok_iff {e : Listing.Entry} :
    i.describe = .ok e ↔ ∃ s, Says i.words s ∧ e = s.entry i.line i.text := by
  constructor
  · intro h
    rcases i.says_or_overlong_or_malformed with ⟨s, hs⟩ | ⟨n, hn⟩ | ⟨f, hf, _⟩
    · rw [describe_of_statement hs] at h
      exact ⟨s, hs, (Except.ok.inj h).symm⟩
    · rw [describe_of_overlong hn] at h
      contradiction
    · rw [hf] at h
      contradiction
  · rintro ⟨s, hs, rfl⟩
    exact describe_of_statement hs

/-- Describing fails for the length of a numeral exactly where that is all that is wrong. -/
theorem describe_eq_numeralTooLong_iff :
    i.describe = .error (.numeralTooLong n) ↔ Overlong i.words n := by
  constructor
  · intro h
    rcases i.says_or_overlong_or_malformed with ⟨s, hs⟩ | ⟨m, hm⟩ | ⟨f, hf, _⟩
    · rw [describe_of_statement hs] at h
      contradiction
    · rw [describe_of_overlong hm] at h
      rwa [← ReadError.numeralTooLong.inj (Except.error.inj h)]
    · rw [hf] at h
      cases h
  · exact describe_of_overlong

/-- Describing an instruction fails for the length of a numeral or because it is malformed. -/
lemma describe_failure {e : ReadError} (h : i.describe = .error e) :
    (∃ n, e = .numeralTooLong n) ∨ ∃ f, e = i.faulty f ∧ f.family = .malformed := by
  rcases i.says_or_overlong_or_malformed with ⟨s, hs⟩ | ⟨n, hn⟩ | ⟨f, hf, hfam⟩
  · rw [describe_of_statement hs] at h
    contradiction
  · rw [describe_of_overlong hn] at h
    exact .inl ⟨n, (Except.error.inj h).symm⟩
  · rw [hf] at h
    exact .inr ⟨f, (Except.error.inj h).symm, hfam⟩

/-! ## Asking for the second operand -/

theorem arg2_of_statement {keyword : NumberKeyword} {name : Word}
    (h : Says i.words (.number keyword name n)) : i.arg2 = .ok n := by
  generalize hw : i.words = ws at h
  cases h with
  | number _ _ rest isNumeral length_le =>
    rw [arg2_of_number_keyword hw, readNumber_of_isNumeral isNumeral,
      if_neg (Nat.not_lt.mpr length_le)]

theorem arg2_of_overlong (h : Overlong i.words n) : i.arg2 = .error (.numeralTooLong n) := by
  generalize hw : i.words = ws at h
  cases h with
  | number keyword name rest isNumeral lt_length =>
    rw [arg2_of_number_keyword hw, readNumber_of_isNumeral isNumeral, if_pos lt_length]

/-- A keyword whose kind has a number begins a statement with a number. -/
lemma exists_numberKeyword {k : Kind} (hk : i.kind = .ok k) (hn : k.hasNumber = true) :
    ∃ (keyword : NumberKeyword) (rest : List String), i.words = keyword.text :: rest := by
  obtain ⟨w, rest, hw, hkeyword⟩ := kind_eq_ok_iff.mp hk
  -- the other keywords have kinds without a number
  rcases Kind.ofKeyword?_cases hkeyword with
    ⟨operator, rfl⟩ | rfl | ⟨keyword, rfl⟩ | ⟨keyword, rfl⟩
  · rw [operator.ofKeyword?_text] at hkeyword
    rw [← Option.some.inj hkeyword] at hn
    contradiction
  · rw [show Kind.ofKeyword? "return" = some .ret by decide +kernel] at hkeyword
    rw [← Option.some.inj hkeyword] at hn
    contradiction
  · rw [keyword.ofKeyword?_text] at hkeyword
    rw [← Option.some.inj hkeyword, keyword.hasNumber_kind] at hn
    contradiction
  · exact ⟨keyword, rest, hw⟩

/-- The second operand is the number of a statement, a numeral that is too long to be read, or the
instruction is at fault. -/
theorem arg2_cases (i : Instruction) :
    (∃ keyword name n, Says i.words (.number keyword name n)) ∨ (∃ n, Overlong i.words n) ∨
      ∃ f, i.arg2 = .error (i.faulty f) ∧ (f.family = .malformed ∨ f.family = .operandAccess) := by
  cases hk : i.kind with
  | error e =>
    obtain ⟨f, rfl, hfam⟩ := kind_failure hk
    exact .inr (.inr ⟨f, arg2_of_kind_error hk, .inl hfam⟩)
  | ok k =>
    cases hn : k.hasNumber with
    | false => exact .inr (.inr ⟨_, arg2_of_no_number hk hn, .inr rfl⟩)
    | true =>
      obtain ⟨keyword, rest, hw⟩ := exists_numberKeyword hk hn
      match rest with
      | [] | [_] =>
        exact .inr (.inr ⟨_, arg2_of_no_numeral hk hn (by simp [hw]), .inl rfl⟩)
      | argument :: numeral :: rest =>
        rcases says_or_overlong_or_notANumber hw with ⟨name, n, hsays⟩ | hlong | hread
        · exact .inl ⟨keyword, name, n, hsays⟩
        · exact .inr (.inl hlong)
        · exact .inr (.inr ⟨_, (arg2_of_number_keyword hw).trans hread, .inl rfl⟩)

/-! ## Accepting the grammar -/

/-- Describing an instruction succeeds exactly if the words that its text consists of make a
statement, and then tells of that statement. A numeral that is too long is a failure of its own, and
every other instruction is malformed. -/
theorem describe_accepts_grammar (i : Instruction) :
    ∃ ws : List Word, ConsistsOf i.text.toList ws ∧
      (∀ ws', ConsistsOf i.text.toList ws' → ws' = ws) ∧
      (∀ e, i.describe = .ok e ↔ ∃ s, Says (ws.map Word.text) s ∧ e = s.entry i.line i.text) ∧
      (∀ n, i.describe = .error (.numeralTooLong n) ↔ Overlong (ws.map Word.text) n) ∧
      ∀ e, i.describe = .error e →
        (∃ n, e = .numeralTooLong n) ∨ ∃ d, e = .diagnostic d ∧ d.fault.family = .malformed := by
  obtain ⟨ws, hws⟩ := exists_consistsOf i.text.toList
  refine ⟨ws, hws, fun ws' hws' => hws'.unique hws, ?_⟩
  rw [← words_of_consistsOf hws]
  refine ⟨fun e => describe_eq_ok_iff, fun n => describe_eq_numeralTooLong_iff, fun e he => ?_⟩
  rcases describe_failure he with hlong | ⟨f, rfl, hfam⟩
  · exact .inl hlong
  · exact .inr ⟨_, rfl, hfam⟩

end Instruction

end HackFrontEnd
