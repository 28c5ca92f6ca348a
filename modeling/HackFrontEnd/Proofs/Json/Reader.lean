import HackFrontEnd.Proofs.Json.Grammar
import HackFrontEnd.Proofs.Text.Numeral
import Mathlib.Data.List.Forall2

/-!
# Reading JSON

A reader for the grammar. It reads from left to right without turning back from a choice, and finds
the value of every text that holds one, so no text holds two values:

* `readSpelling_append`, `readString_append`: the characters of a string, surrogates put together;
* `readInteger_append`: integers;
* `readParts_append`: lists and objects alike;
* `readsBack_value`: a value at the start of a text, by recursion on the value;
* `conforming_read`: the reader conforms;
* `IsText.unique`: a text holds one value.
-/

namespace HackFrontEnd.Json

open Text

/-! ## The reader -/

/-- What follows the gap at the start of a text. -/
def skipGap (cs : List Char) : List Char := cs.dropWhile isSpace

/-- The UTF-16 unit that is escaped at the start of a text, and what follows it. -/
def readUnit : List Char → Option (Nat × List Char)
  | '\\' :: 'u' :: a :: b :: c :: d :: rest => (unit? a b c d).map fun n => (n, rest)
  | _ => none

/-- The character of a high surrogate and the low surrogate at the start of a text, and what follows
them. -/
def readLow (high : Nat) (cs : List Char) : Option (Char × List Char) :=
  match readUnit cs with
  | none => none
  | some (low, rest) =>
    if 0xDC00 ≤ low && low < 0xE000 then
      some (Char.ofNat (0x10000 + 0x400 * (high - 0xD800) + (low - 0xDC00)), rest)
    else none

/-- The character that stands for itself or follows a backslash at the start of a text, and what
follows it. -/
def readSign : List Char → Option (Char × List Char)
  | '\\' :: letter :: rest => (escaped? letter).map fun c => (c, rest)
  | c :: rest => if c.toNat < 0x20 then none else some (c, rest)
  | [] => none

/-- The character that is spelled at the start of a text, and what follows it. -/
def readSpelling (cs : List Char) : Option (Char × List Char) :=
  match readUnit cs with
  | none => readSign cs
  | some (n, rest) =>
    if n < 0xD800 || 0xE000 ≤ n then some (Char.ofNat n, rest)
    else if n < 0xDC00 then readLow n rest
    else none

/-- The characters up to the quote that ends a string, and what follows it. The number bounds how
many characters there are. -/
def readString : Nat → List Char → Option (List Char × List Char)
  | _, [] | 0, _ => none
  | bound + 1, c :: cs =>
    if c = '"' then some ([], cs)
    else do
      let (d, rest) ← readSpelling (c :: cs)
      let (s, rest) ← readString bound rest
      some (d :: s, rest)

/-- The natural number at the start of a text, and what follows it. -/
def readNatural (cs : List Char) : Option (Nat × List Char) :=
  match cs.takeWhile Char.isDigit with
  | [] => none
  | '0' :: _ :: _ => none
  | digits => some (Decimal.value digits, cs.dropWhile Char.isDigit)

/-- The integer at the start of a text, and what follows it. -/
def readInteger : List Char → Option (Int × List Char)
  | [] => none
  | c :: cs =>
    if c = '-' then (readNatural cs).map fun (n, rest) => (-n, rest)
    else (readNatural (c :: cs)).map fun (n, rest) => (n, rest)

section Parts

variable {α : Type} (readPart : List Char → Option (α × List Char))

/-- The parts up to a closing character, and what follows it. The number bounds how many parts there
are. -/
def readParts (closing : Char) : Nat → List Char → Option (List α × List Char)
  | 0, _ => none
  | bound + 1, cs => do
    let (part, rest) ← readPart (skipGap cs)
    match skipGap rest with
    | [] => none
    | c :: rest =>
      if c = closing then some ([part], rest)
      else if c = ',' then do
        let (parts, rest) ← readParts closing bound rest
        some (part :: parts, rest)
      else none

/-- Any number of parts up to a closing character, and what follows it. -/
def readEnclosed (closing : Char) (bound : Nat) (cs : List Char) : Option (List α × List Char) :=
  match skipGap cs with
  | [] => none
  | c :: rest => if c = closing then some ([], rest) else readParts readPart closing bound cs

/-- A key, a colon and a part at the start of a text, and what follows it. -/
def readMember (bound : Nat) : List Char → Option ((String × α) × List Char)
  | '"' :: cs => do
    let (key, rest) ← readString bound cs
    match skipGap rest with
    | ':' :: rest => do
      let (part, rest) ← readPart (skipGap rest)
      some ((String.ofList key, part), rest)
    | _ => none
  | _ => none

end Parts

/-- The value at the start of a text, and what follows it. The number bounds how long the value is,
and how deep. -/
def readValue : Nat → List Char → Option (Json × List Char)
  | _, [] | 0, _ => none
  | bound + 1, c :: cs =>
    if c = '"' then
      (readString bound cs).map fun (s, rest) => (.str (String.ofList s), rest)
    else if c = '[' then
      (readEnclosed (readValue bound) ']' bound cs).map fun (items, rest) => (.list items, rest)
    else if c = '\x7b' then
      (readEnclosed (readMember (readValue bound) bound) '\x7d' bound cs).map
        fun (members, rest) => (.object members, rest)
    else (readInteger (c :: cs)).map fun (n, rest) => (.int n, rest)

/-- The value of a text, if it holds one and nothing else. -/
def read (s : String) : Option Json := do
  let (v, rest) ← readValue s.toList.length (skipGap s.toList)
  if (skipGap rest).isEmpty then some v else none

/-! ## Gaps -/

/-- Skipping a gap skips all of it. -/
lemma skipGap_append {gap : List Char} (h : IsGap gap) (cs : List Char) :
    skipGap (gap ++ cs) = skipGap cs :=
  List.dropWhile_append_of_pos h

lemma skipGap_cons {c : Char} (h : isSpace c = false) (cs : List Char) :
    skipGap (c :: cs) = c :: cs := by
  rw [skipGap, List.dropWhile_cons, h]
  rfl

/-! ## Strings -/

lemma readUnit_of_unit {a b c d : Char} {n : Nat} (h : unit? a b c d = some n)
    (rest : List Char) : readUnit ('\\' :: 'u' :: a :: b :: c :: d :: rest) = some (n, rest) := by
  rw [readUnit, h]
  rfl

/-- A unit starts with a backslash. -/
lemma readUnit_plain {c : Char} (h : c ≠ '\\') (rest : List Char) :
    readUnit (c :: rest) = none := by
  unfold readUnit
  split
  · rename_i hcs
    exact absurd (List.cons.inj hcs).1 h
  · rfl

/-- The letter of a unit is a `u`, so a backslash before another one is left to the signs. -/
lemma readUnit_short {letter : Char} (h : letter ≠ 'u') (rest : List Char) :
    readUnit ('\\' :: letter :: rest) = none := by
  unfold readUnit
  split
  · rename_i hcs
    exact absurd (List.cons.inj (List.cons.inj hcs).2).1 h
  · rfl

lemma readSign_plain {c : Char} (hback : c ≠ '\\') (hcontrol : 0x20 ≤ c.toNat)
    (rest : List Char) : readSign (c :: rest) = some (c, rest) := by
  unfold readSign
  split
  · rename_i hcs
    exact absurd (List.cons.inj hcs).1 hback
  · rename_i hcs
    obtain ⟨rfl, rfl⟩ := List.cons.inj hcs
    exact if_neg (Nat.not_lt.mpr hcontrol)
  · contradiction

/-- A low surrogate reads back, and makes a character together with the high one before it. -/
lemma readLow_of_unit {a b c d : Char} {high low : Nat} (h : unit? a b c d = some (0xDC00 + low))
    (hlow : low < 0x400) (rest : List Char) :
    readLow (0xD800 + high) ('\\' :: 'u' :: a :: b :: c :: d :: rest) =
      some (Char.ofNat (0x10000 + 0x400 * high + low), rest) := by
  have hrange : (decide (0xDC00 ≤ 0xDC00 + low) && decide (0xDC00 + low < 0xE000)) = true := by
    rw [Bool.and_eq_true, decide_eq_true_eq, decide_eq_true_eq]
    omega
  rw [readLow, readUnit_of_unit h]
  simp only [hrange, if_true, Nat.add_sub_cancel_left]

/-- A character reads back, whichever way it is spelled. -/
theorem readSpelling_append {c : Char} {cs : List Char} (h : Spells c cs) (rest : List Char) :
    readSpelling (cs ++ rest) = some (c, rest) := by
  cases h with
  | plain hcontrol _ hback =>
    rw [List.singleton_append, readSpelling, readUnit_plain hback]
    exact readSign_plain hback hcontrol rest
  | @short letter h =>
    have hletter : letter ≠ 'u' := by
      rintro rfl
      contradiction
    show readSpelling ('\\' :: letter :: rest) = _
    rw [readSpelling, readUnit_short hletter]
    show (escaped? letter).map _ = _
    rw [h]
    rfl
  | @unit a₁ a₂ a₃ a₄ h =>
    -- no character is a surrogate, so the reader takes the unit for a whole character
    have hrange : (decide (c.toNat < 0xD800) || decide (0xE000 ≤ c.toNat)) = true := by
      rw [Bool.or_eq_true, decide_eq_true_eq, decide_eq_true_eq]
      exact c.valid.imp id And.left
    show readSpelling ('\\' :: 'u' :: a₁ :: a₂ :: a₃ :: a₄ :: rest) = _
    rw [readSpelling, readUnit_of_unit h]
    simp only [hrange, if_true, Char.ofNat_toNat]
  | @surrogates a₁ a₂ a₃ a₄ b₁ b₂ b₃ b₄ high low hhigh hlow hhigh_lt hlow_lt h =>
    show readSpelling ('\\' :: 'u' :: a₁ :: a₂ :: a₃ :: a₄ :: '\\' :: 'u' :: b₁ :: b₂ :: b₃ :: b₄ ::
      rest) = _
    have hrange : (decide (0xD800 + high < 0xD800) || decide (0xE000 ≤ 0xD800 + high)) = false := by
      rw [Bool.or_eq_false_iff, decide_eq_false_iff_not, decide_eq_false_iff_not]
      omega
    -- a high surrogate is no character by itself: the reader looks for the low one
    have hlt : 0xD800 + high < 0xDC00 := by omega
    rw [readSpelling, readUnit_of_unit hhigh]
    simp only [hrange, hlt, if_true, Bool.false_eq_true, if_false]
    rw [readLow_of_unit hlow hlow_lt, ← h, Char.ofNat_toNat]

/-- No spelling starts with a quote, so the first quote ends the string. -/
lemma Spells.ne_quote {c : Char} {cs : List Char} (h : Spells c cs) :
    ∃ d ds, cs = d :: ds ∧ d ≠ '"' := by
  cases h with
  | plain _ hquote _ => exact ⟨c, [], rfl, hquote⟩
  | short | unit | surrogates => exact ⟨_, _, rfl, by decide⟩

/-- The characters of a string read back. -/
theorem readString_append {s cs : List Char} (h : SpellsAll s cs) {bound : Nat}
    (hbound : cs.length ≤ bound) (rest : List Char) :
    readString bound (cs ++ rest) = some (s, rest) := by
  -- The induction is on how the string is spelled. Each spelling takes a character at least, so the
  -- bound lasts.
  induction h generalizing bound with
  | nil =>
    obtain ⟨bound, rfl⟩ := Nat.exists_eq_add_of_le' hbound
    rfl
  | @cons c s cs more h _ ih =>
    have hfirst := readSpelling_append h (more ++ rest)
    obtain ⟨d, ds, rfl, hquote⟩ := h.ne_quote
    rw [List.length_append, List.length_cons] at hbound
    obtain ⟨bound, rfl⟩ := Nat.exists_eq_succ_of_ne_zero (n := bound) (by omega)
    rw [List.append_assoc]
    rw [List.cons_append] at hfirst ⊢
    have hmore : readString bound (more ++ rest) = some (s, rest) := ih (by omega)
    rw [readString, if_neg hquote, hfirst]
    simp only [bind, Option.bind, hmore]

/-! ## Integers -/

/-- No digit follows. -/
def NoDigitAhead (rest : List Char) : Prop := ∀ c ∈ rest.head?, c.isDigit = false

lemma takeWhile_isDigit_append {digits rest : List Char} (h : ∀ c ∈ digits, c.isDigit = true)
    (hrest : NoDigitAhead rest) :
    (digits ++ rest).takeWhile Char.isDigit = digits ∧
      (digits ++ rest).dropWhile Char.isDigit = rest := by
  rw [List.takeWhile_append_of_pos h, List.dropWhile_append_of_pos h]
  cases rest with
  | nil => exact ⟨List.append_nil _, rfl⟩
  | cons c rest =>
    have hc : c.isDigit = false := hrest c rfl
    rw [List.takeWhile_cons, List.dropWhile_cons, hc]
    exact ⟨List.append_nil _, rfl⟩

lemma readNatural_append {n : Nat} {cs rest : List Char} (h : IsNatural n cs)
    (hrest : NoDigitAhead rest) : readNatural (cs ++ rest) = some (n, rest) := by
  obtain ⟨htake, hdrop⟩ := takeWhile_isDigit_append h.isDigit hrest
  rw [readNatural, htake, hdrop, ← h.value]
  split
  · exact absurd rfl h.ne_nil
  -- the grammar has no leading zeros, so the reader refuses none of its numerals here
  · exact absurd (h.leading rfl) (by simp)
  · rfl

/-- An integer reads back where its digits end. -/
theorem readInteger_append {n : Int} {cs rest : List Char} (h : IsInteger n cs)
    (hrest : NoDigitAhead rest) : readInteger (cs ++ rest) = some (n, rest) := by
  cases h with
  | natural h =>
    obtain ⟨c, digits, rfl⟩ := List.exists_cons_of_ne_nil h.ne_nil
    have hminus : c ≠ '-' := by
      rintro rfl
      exact absurd (h.isDigit '-' List.mem_cons_self) (by decide)
    rw [List.cons_append, readInteger, if_neg hminus, ← List.cons_append,
      readNatural_append h hrest]
    rfl
  | negative h =>
    rw [List.cons_append, readInteger, if_pos rfl, readNatural_append h hrest]
    rfl

/-! ## Lists and objects -/

/-- The characters that values and members start with. -/
def isFirst (c : Char) : Bool :=
  c == '"' || c == '-' || c == '[' || c == '\x7b' || c.isDigit

/-- The characters that end lists and objects. -/
def isClosing (c : Char) : Bool := c == ']' || c == '\x7d'

lemma isSpace_cases {c : Char} (h : isSpace c = true) :
    c.isDigit = false ∧ isFirst c = false := by
  simp only [isSpace, Bool.or_eq_true, beq_iff_eq] at h
  rcases h with ((rfl | rfl) | rfl) | rfl <;> decide

lemma isSpace_of_isFirst {c : Char} (h : isFirst c = true) : isSpace c = false := by
  rw [← Bool.not_eq_true]
  intro hspace
  rw [(isSpace_cases hspace).2] at h
  contradiction

/-- What ends a list or an object is no space, comma or digit, nor the start of a value. -/
lemma isClosing_cases {c : Char} (h : isClosing c = true) :
    isSpace c = false ∧ c ≠ ',' ∧ c.isDigit = false ∧ isFirst c = false := by
  simp only [isClosing, Bool.or_eq_true, beq_iff_eq] at h
  rcases h with rfl | rfl <;> decide

/-- A value does not start with what ends a list or an object. -/
lemma ne_of_isFirst_of_isClosing {c closing : Char} (hc : isFirst c = true)
    (hclosing : isClosing closing = true) : c ≠ closing := by
  rintro rfl
  rw [(isClosing_cases hclosing).2.2.2] at hc
  contradiction

lemma noDigitAhead_gap_append {gap : List Char} {c : Char} (h : IsGap gap)
    (hc : c.isDigit = false) (rest : List Char) : NoDigitAhead (gap ++ c :: rest) := by
  intro d hd
  cases gap with
  | nil => exact Option.some.inj hd ▸ hc
  | cons e gap => exact Option.some.inj hd ▸ (isSpace_cases (h e List.mem_cons_self)).1

/-- The reader reads a part back, however it is written. -/
structure ReadsBack {α : Type} (readPart : List Char → Option (α × List Char)) (bound : Nat)
    (part : List Char → Prop) (x : α) : Prop where
  first : ∀ cs, part cs → ∃ c ds, cs = c :: ds ∧ isFirst c = true
  read : ∀ cs rest, part cs → cs.length ≤ bound → NoDigitAhead rest →
    readPart (cs ++ rest) = some (x, rest)

section Parts

variable {α : Type} {readPart : List Char → Option (α × List Char)} {bound : Nat}
  {closing : Char} {part : List Char → Prop} {x : α} {parts : List (List Char → Prop)}
  {xs : List α} {cs : List Char}

/-- A gap before a part ends where the part starts. -/
lemma ReadsBack.skipGap_append (h : ReadsBack readPart bound part x) {gap : List Char}
    (hgap : IsGap gap) (hpart : part cs) (rest : List Char) :
    skipGap (gap ++ (cs ++ rest)) = cs ++ rest := by
  obtain ⟨c, ds, rfl, hfirst⟩ := h.first cs hpart
  rw [Json.skipGap_append hgap, List.cons_append, skipGap_cons (isSpace_of_isFirst hfirst)]

/-- A part reads back between gaps, and what follows it is found behind them. -/
lemma ReadsBack.read_skipGap (h : ReadsBack readPart bound part x) {before after : List Char}
    {c : Char} (hbefore : IsGap before) (hpart : part cs) (hlength : cs.length ≤ bound)
    (hafter : IsGap after) (hdigit : c.isDigit = false) (hspace : isSpace c = false)
    (rest : List Char) :
    readPart (skipGap (before ++ (cs ++ (after ++ c :: rest)))) = some (x, after ++ c :: rest) ∧
      skipGap (after ++ c :: rest) = c :: rest := by
  rw [h.skipGap_append hbefore hpart, Json.skipGap_append hafter, skipGap_cons hspace]
  exact ⟨h.read cs _ hpart hlength (noDigitAhead_gap_append hafter hdigit rest), rfl⟩

/-- Parts read back one by one. -/
theorem readParts_append (hclosing : isClosing closing = true) (h : AreParts closing parts cs)
    (hparts : List.Forall₂ (ReadsBack readPart bound) parts xs) (hbound : cs.length ≤ bound)
    {count : Nat} (hcount : cs.length ≤ count) (rest : List Char) :
    readParts readPart closing count (cs ++ rest) = some (xs, rest) := by
  obtain ⟨hspace, hcomma, hdigit, _⟩ := isClosing_cases hclosing
  -- a part and what ends it take at least one character, so the count suffices for the rest
  induction h generalizing xs count with
  | @last part before cs after hbefore hpart hafter =>
    obtain ⟨x, xs', hreads, hnil, rfl⟩ := List.forall₂_cons_left_iff.mp hparts
    rw [List.forall₂_nil_left_iff.mp hnil]
    simp only [List.length_append, List.length_singleton] at hbound hcount
    obtain ⟨count, rfl⟩ := Nat.exists_eq_succ_of_ne_zero (n := count) (by omega)
    obtain ⟨hread, hskip⟩ := hreads.read_skipGap hbefore hpart (by omega) hafter hdigit hspace rest
    simp only [List.append_assoc, List.singleton_append, readParts, hread, bind, Option.bind, hskip,
      if_true]
  | @more part parts before cs after more hbefore hpart hafter _ ih =>
    obtain ⟨x, xs', hreads, hmore, rfl⟩ := List.forall₂_cons_left_iff.mp hparts
    simp only [List.length_append, List.length_cons] at hbound hcount
    obtain ⟨count, rfl⟩ := Nat.exists_eq_succ_of_ne_zero (n := count) (by omega)
    obtain ⟨hread, hskip⟩ := hreads.read_skipGap hbefore hpart (by omega) hafter (c := ',')
      (by decide) (by decide) (more ++ rest)
    have hrest : readParts readPart closing count (more ++ rest) = some (xs', rest) :=
      ih hmore (by omega) (by omega)
    simp only [List.append_assoc, List.cons_append, readParts, hread, bind, Option.bind, hskip,
      if_neg hcomma.symm, if_true, hrest]

/-- Where parts start there is no closing character. -/
lemma exists_skipGap_of_areParts (hclosing : isClosing closing = true)
    (h : AreParts closing parts cs) (hparts : List.Forall₂ (ReadsBack readPart bound) parts xs)
    (rest : List Char) : ∃ c ds, skipGap (cs ++ rest) = c :: ds ∧ c ≠ closing := by
  -- the first part decides it, be it the last one or not
  have hfirst {before cs more : List Char} {part : List Char → Prop} {x : α}
      (hreads : ReadsBack readPart bound part x) (hbefore : IsGap before) (hpart : part cs) :
      ∃ c ds, skipGap (before ++ (cs ++ more) ++ rest) = c :: ds ∧ c ≠ closing := by
    rw [List.append_assoc, List.append_assoc, hreads.skipGap_append hbefore hpart]
    obtain ⟨c, ds, rfl, hc⟩ := hreads.first cs hpart
    exact ⟨c, _, rfl, ne_of_isFirst_of_isClosing hc hclosing⟩
  cases h with
  | last hbefore hpart hafter =>
    obtain ⟨x, _, hreads, _⟩ := List.forall₂_cons_left_iff.mp hparts
    exact hfirst hreads hbefore hpart
  | more hbefore hpart hafter hmore =>
    obtain ⟨x, _, hreads, _⟩ := List.forall₂_cons_left_iff.mp hparts
    exact hfirst hreads hbefore hpart

/-- Lists and objects read back, if their parts do. -/
theorem readEnclosed_append {opening : Char} (hclosing : isClosing closing = true)
    (h : IsEnclosed opening closing parts (opening :: cs))
    (hparts : List.Forall₂ (ReadsBack readPart bound) parts xs) (hbound : cs.length ≤ bound)
    (rest : List Char) : readEnclosed readPart closing bound (cs ++ rest) = some (xs, rest) := by
  cases h with
  | @empty gap hgap =>
    rw [List.forall₂_nil_left_iff.mp hparts, List.append_assoc, readEnclosed, skipGap_append hgap,
      List.singleton_append, skipGap_cons (isClosing_cases hclosing).1]
    exact if_pos rfl
  | parts h =>
    obtain ⟨c, ds, hskip, hc⟩ := exists_skipGap_of_areParts hclosing h hparts rest
    rw [readEnclosed, hskip]
    exact (if_neg hc).trans (readParts_append hclosing h hparts hbound hbound rest)

/-- A member reads back, if its value does. -/
lemma readsBack_member {key : String} (h : ReadsBack readPart bound part x) :
    ReadsBack (readMember readPart bound) bound (IsMember key part) (key, x) where
  first := by
    -- a member starts with the quote of its key
    rintro _ ⟨name, before, after, value, rfl, ⟨body, rfl, _⟩, _⟩
    exact ⟨'"', _, rfl, rfl⟩
  read := by
    rintro _ rest ⟨name, before, after, value, rfl, ⟨body, rfl, hbody⟩, hbefore, hafter, hvalue⟩
      hlength hrest
    simp only [List.length_append, List.length_cons] at hlength
    have hkey : readString bound (body ++ (before ++ ':' :: (after ++ (value ++ rest)))) =
        some (key.toList, before ++ ':' :: (after ++ (value ++ rest))) :=
      readString_append hbody (by omega) _
    have hcolon : skipGap (before ++ ':' :: (after ++ (value ++ rest))) =
        ':' :: (after ++ (value ++ rest)) := by
      rw [skipGap_append hbefore, skipGap_cons (by decide)]
    have hpart : readPart (value ++ rest) = some (x, rest) :=
      h.read value rest hvalue (by omega) hrest
    simp only [List.append_assoc, List.cons_append, readMember, hkey, bind, Option.bind, hcolon,
      h.skipGap_append hafter hvalue, hpart, String.ofList_toList]

end Parts

/-! ## Values -/

lemma exists_of_isEnclosed {opening closing : Char} {parts : List (List Char → Prop)}
    {cs : List Char} (h : IsEnclosed opening closing parts cs) : ∃ body, cs = opening :: body := by
  cases h <;> exact ⟨_, rfl⟩

lemma exists_of_isInteger {n : Int} {cs : List Char} (h : IsInteger n cs) :
    ∃ c ds, cs = c :: ds ∧ (c.isDigit = true ∨ c = '-') := by
  cases h with
  | natural h =>
    obtain ⟨c, ds, rfl⟩ := List.exists_cons_of_ne_nil h.ne_nil
    exact ⟨c, ds, rfl, .inl (h.isDigit c List.mem_cons_self)⟩
  | negative h => exact ⟨'-', _, rfl, .inr rfl⟩

/-- Every value starts with one of a few characters. -/
lemma exists_isFirst_of_isValue {v : Json} {cs : List Char} (h : IsValue v cs) :
    ∃ c ds, cs = c :: ds ∧ isFirst c = true := by
  cases v with
  | int n =>
    obtain ⟨c, ds, rfl, hdigit | rfl⟩ := exists_of_isInteger h
    · exact ⟨c, ds, rfl, by rw [isFirst, hdigit, Bool.or_true]⟩
    · exact ⟨'-', ds, rfl, rfl⟩
  | str s =>
    obtain ⟨body, rfl, _⟩ := h
    exact ⟨'"', body, rfl, rfl⟩
  | list items =>
    obtain ⟨body, rfl⟩ := exists_of_isEnclosed h
    exact ⟨'[', body, rfl, rfl⟩
  | object members =>
    obtain ⟨body, rfl⟩ := exists_of_isEnclosed h
    exact ⟨'\x7b', body, rfl, rfl⟩

section Values

variable {bound : Nat} {cs rest : List Char}

lemma readValue_int {n : Int} (h : IsInteger n cs) (hrest : NoDigitAhead rest) :
    readValue (bound + 1) (cs ++ rest) = some (int n, rest) := by
  have hread := readInteger_append h hrest
  obtain ⟨c, ds, rfl, hc⟩ := exists_of_isInteger h
  -- what an integer starts with starts no other value
  have hother : c ≠ '"' ∧ c ≠ '[' ∧ c ≠ '\x7b' := by
    refine ⟨?_, ?_, ?_⟩ <;> rintro rfl <;> rcases hc with hc | hc <;> contradiction
  rw [List.cons_append] at hread ⊢
  rw [readValue, if_neg hother.1, if_neg hother.2.1, if_neg hother.2.2, hread]
  rfl

/-- A string is told by its quote, and reads back within the bound. -/
lemma readValue_str {s : String} (h : IsString s cs) (hlength : cs.length ≤ bound + 1) :
    readValue (bound + 1) (cs ++ rest) = some (str s, rest) := by
  obtain ⟨body, rfl, hbody⟩ := h
  rw [List.cons_append, readValue, if_pos rfl,
    readString_append hbody (Nat.le_of_succ_le_succ hlength)]
  show some (str (String.ofList s.toList), rest) = some (str s, rest)
  rw [String.ofList_toList]

/-- A list reads back within the bound, if its items do within a smaller one. -/
lemma readValue_list {items : List Json} (h : IsValue (list items) cs)
    (hitems : List.Forall₂ (ReadsBack (readValue bound) bound) (itemParts items) items)
    (hlength : cs.length ≤ bound + 1) :
    readValue (bound + 1) (cs ++ rest) = some (list items, rest) := by
  obtain ⟨body, rfl⟩ := exists_of_isEnclosed h
  rw [List.cons_append, readValue, if_neg (by decide), if_pos rfl,
    readEnclosed_append (by decide) h hitems (Nat.le_of_succ_le_succ hlength)]
  rfl

/-- An object reads back within the bound, if its members do within a smaller one. -/
lemma readValue_object {members : List (String × Json)} (h : IsValue (object members) cs)
    (hmembers : List.Forall₂ (ReadsBack (readMember (readValue bound) bound) bound)
      (memberParts members) members) (hlength : cs.length ≤ bound + 1) :
    readValue (bound + 1) (cs ++ rest) = some (object members, rest) := by
  obtain ⟨body, rfl⟩ := exists_of_isEnclosed h
  rw [List.cons_append, readValue, if_neg (by decide), if_neg (by decide), if_pos rfl,
    readEnclosed_append (by decide) h hmembers (Nat.le_of_succ_le_succ hlength)]
  rfl

/-- No value is written in no characters. -/
lemma readsBack_of_succ {v : Json}
    (h : ∀ bound cs rest, IsValue v cs → cs.length ≤ bound + 1 → NoDigitAhead rest →
      readValue (bound + 1) (cs ++ rest) = some (v, rest)) (bound : Nat) :
    ReadsBack (readValue bound) bound (IsValue v) v where
  first := fun _ => exists_isFirst_of_isValue
  read := by
    intro cs rest hvalue hlength hrest
    cases bound with
    | zero =>
      obtain ⟨c, ds, rfl, _⟩ := exists_isFirst_of_isValue hvalue
      contradiction
    | succ bound => exact h bound cs rest hvalue hlength hrest

end Values

/- By recursion on the value. The bound is that of what is around it, which is longer by at least
the opening character, and so it suffices one level down. -/
mutual

/-- A value reads back, however it is written. -/
theorem readsBack_value : ∀ v bound, ReadsBack (readValue bound) bound (IsValue v) v
  | int _ => readsBack_of_succ fun _ _ _ h _ hrest => readValue_int h hrest
  | str _ => readsBack_of_succ fun _ _ _ h hlength _ => readValue_str h hlength
  | list items => readsBack_of_succ fun bound _ _ h hlength _ =>
    readValue_list h (readsBack_items items bound) hlength
  | object members => readsBack_of_succ fun bound _ _ h hlength _ =>
    readValue_object h (readsBack_members members bound) hlength

/-- So do the items of a list, each of them. -/
lemma readsBack_items : ∀ items bound,
    List.Forall₂ (ReadsBack (readValue bound) bound) (itemParts items) items
  | [], _ => .nil
  | v :: vs, bound => .cons (readsBack_value v bound) (readsBack_items vs bound)

/-- So do the members of an object, each of them. -/
lemma readsBack_members : ∀ members bound,
    List.Forall₂ (ReadsBack (readMember (readValue bound) bound) bound) (memberParts members)
      members
  | [], _ => .nil
  | (_, v) :: ms, bound =>
    .cons (readsBack_member (readsBack_value v bound)) (readsBack_members ms bound)

end

/-! ## Texts -/

/-- The value of a text that holds one is read. -/
theorem read_of_isText {s : String} {v : Json} (h : IsText v s) : read s = some v := by
  obtain ⟨before, cs, after, hs, hbefore, hvalue, hafter⟩ := h
  have hreads := readsBack_value v s.toList.length
  have hlength : cs.length ≤ s.toList.length := by
    rw [hs, List.length_append, List.length_append]
    omega
  have hdigit : NoDigitAhead after := by
    intro c hc
    exact (isSpace_cases (hafter c (List.mem_of_mem_head? hc))).1
  -- a value starts with no space, so the gap before it ends where it starts
  have hskip : skipGap s.toList = cs ++ after := by
    rw [hs, hreads.skipGap_append hbefore hvalue]
  have hrest : skipGap after = [] := by
    have hnil := skipGap_append hafter []
    rwa [List.append_nil] at hnil
  simp only [read, hskip, hreads.read cs after hvalue hlength hdigit, bind, Option.bind, hrest,
    List.isEmpty_nil, if_true]

/-- The reader conforms, even where keys are repeated. -/
theorem conforming_read : Conforming read :=
  fun _ _ _ h => read_of_isText h

/-- A text holds one value. -/
theorem IsText.unique {s : String} {v w : Json} (hv : IsText v s) (hw : IsText w s) : v = w :=
  Option.some.inj ((read_of_isText hv).symm.trans (read_of_isText hw))

end HackFrontEnd.Json
