import HackFrontEnd.Proofs.Json.Grammar
import HackFrontEnd.Proofs.Text.Lines
import HackFrontEnd.Proofs.Text.Numeral

/-!
# Written JSON

The text of a value is plain: besides line feeds it holds printable characters of ASCII alone. And
where every character stands for itself, the text is one of the ways to write the value.

* `hexadecimal_four`: the four digits of a UTF-16 unit;
* `escapeCode_cases`, `spells_escapeCode`: every character is spelled, with surrogates if need be;
* `isEnclosed_enclose`: what goes for the parts goes for a list or an object of them;
* `IsLiteral`, `render_of_isLiteral`: whether characters stand for themselves, and what follows;
* `isText_text`, `isPlain_text`: the two facts about texts.
-/

namespace HackFrontEnd

open Text

/-! ## Hexadecimal digits -/

namespace Text

/-- The last digit of a numeral, and the numeral of what is before it. -/
lemma hexadecimal_succ {width : Nat} (hwidth : width ≠ 0) (n : Nat) :
    hexadecimal (width + 1) n = hexadecimal width (n / 16) ++ [(n % 16).digitChar] := by
  have hdigit : n % 16 < 16 := Nat.mod_lt n (by decide)
  -- zeros make up the width, so what is before a single digit is zeros alone
  by_cases hn : n < 16
  · rw [hexadecimal, hexadecimal, Nat.div_eq_of_lt hn, Nat.mod_eq_of_lt hn,
      Nat.toDigits_of_lt_base hn, Nat.toDigits_of_lt_base (by decide)]
    obtain ⟨width, rfl⟩ := Nat.exists_eq_succ_of_ne_zero hwidth
    show List.replicate (width + 1) '0' ++ _ = (List.replicate width '0' ++ ['0']) ++ _
    rw [List.replicate_succ']
  · have happend := Nat.toDigits_append_toDigits (b := 16) (n := n / 16) (d := n % 16)
      (by decide) (by omega) hdigit
    rw [Nat.div_add_mod, Nat.toDigits_of_lt_base hdigit] at happend
    rw [hexadecimal, hexadecimal, ← happend, List.length_append, List.length_singleton,
      Nat.add_sub_add_right, List.append_assoc]

lemma hexadecimal_one {n : Nat} (h : n < 16) : hexadecimal 1 n = [n.digitChar] := by
  rw [hexadecimal, Nat.toDigits_of_lt_base h]
  rfl

/-- The four digits of a UTF-16 unit, the highest one first. -/
lemma hexadecimal_four {n : Nat} (h : n < 0x10000) :
    hexadecimal 4 n = [(n / 16 / 16 / 16).digitChar, (n / 16 / 16 % 16).digitChar,
      (n / 16 % 16).digitChar, (n % 16).digitChar] := by
  rw [hexadecimal_succ (by decide), hexadecimal_succ (by decide), hexadecimal_succ (by decide),
    hexadecimal_one (by omega)]
  rfl

end Text

namespace Json

lemma hexValue?_digitChar {d : Nat} (h : d < 16) : hexValue? d.digitChar = some d := by
  have hall : ∀ d < 16, hexValue? d.digitChar = some d := by decide
  exact hall d h

lemma unit?_hexadecimal {n : Nat} (h : n < 0x10000) :
    ∃ a b c d, hexadecimal 4 n = [a, b, c, d] ∧ unit? a b c d = some n := by
  refine ⟨_, _, _, _, hexadecimal_four h, ?_⟩
  rw [unit?, hexValue?_digitChar (by omega), hexValue?_digitChar (by omega),
    hexValue?_digitChar (by omega), hexValue?_digitChar (by omega)]
  show some _ = some n
  congr 1
  omega

/-! ## Strings -/

/-- A character of the first plane is spelled by its unit. -/
lemma spells_escapeUnit {c : Char} (h : c.toNat < 0x10000) : Spells c (escapeUnit c.toNat) := by
  obtain ⟨a₁, a₂, a₃, a₄, hdigits, hunit⟩ := unit?_hexadecimal h
  rw [escapeUnit, hdigits]
  exact .unit hunit

/-- A character of the other planes is spelled by two surrogates. -/
lemma spells_escapeUnits {c : Char} {high low : Nat} (hhigh : high < 0x400) (hlow : low < 0x400)
    (h : c.toNat = 0x10000 + 0x400 * high + low) :
    Spells c (escapeUnit (0xD800 + high) ++ escapeUnit (0xDC00 + low)) := by
  obtain ⟨a₁, a₂, a₃, a₄, hdigits, hunit⟩ := unit?_hexadecimal (n := 0xD800 + high) (by omega)
  obtain ⟨b₁, b₂, b₃, b₄, hdigits', hunit'⟩ := unit?_hexadecimal (n := 0xDC00 + low) (by omega)
  rw [escapeUnit, escapeUnit, hdigits, hdigits']
  exact .surrogates hunit hunit' hhigh hlow h

/-- The ways in which a code point comes to be written. -/
lemma escapeCode_cases (n : Nat) :
    (∃ letter c, escapeCode n = ['\\', letter] ∧ escaped? letter = some c ∧ c.toNat = n) ∨
      (∃ c, escapeCode n = [c] ∧ c.toNat = n ∧ 0x20 ≤ n ∧ n < 0x7F ∧ c ≠ '"' ∧ c ≠ '\\') ∨
      (escapeCode n = escapeUnit n ∧ n < 0x10000) ∨
      ∃ high low, escapeCode n = escapeUnit (0xD800 + high) ++ escapeUnit (0xDC00 + low) ∧
        low < 0x400 ∧ n = 0x10000 + 0x400 * high + low := by
  -- the code points with a short escape of their own come first, as they do when escaping
  by_cases hquote : n = 0x22
  · exact .inl ⟨'"', '"', by rw [escapeCode, if_pos hquote], rfl, hquote.symm⟩
  by_cases hback : n = 0x5C
  · exact .inl ⟨'\\', '\\', by rw [hback]; rfl, rfl, hback.symm⟩
  by_cases hfeed : n = 0x0A
  · exact .inl ⟨'n', '\n', by rw [hfeed]; rfl, rfl, hfeed.symm⟩
  by_cases hreturn : n = 0x0D
  · exact .inl ⟨'r', '\r', by rw [hreturn]; rfl, rfl, hreturn.symm⟩
  by_cases htab : n = 0x09
  · exact .inl ⟨'t', '\t', by rw [htab]; rfl, rfl, htab.symm⟩
  by_cases hform : n = 0x0C
  · exact .inl ⟨'f', '\x0c', by rw [hform]; rfl, rfl, hform.symm⟩
  by_cases hbell : n = 0x08
  · exact .inl ⟨'b', '\x08', by rw [hbell]; rfl, rfl, hbell.symm⟩
  rw [escapeCode, if_neg hquote, if_neg hback, if_neg hfeed, if_neg hreturn, if_neg htab,
    if_neg hform, if_neg hbell]
  refine .inr ?_
  by_cases hrange : 0x20 ≤ n ∧ n < 0x7F
  · have hvalue : (Char.ofNat n).toNat = n := by
      rw [Char.ofNat, dif_pos (.inl (by omega : n < 0xD800))]
      rfl
    rw [if_pos (by simpa using hrange)]
    refine .inl ⟨Char.ofNat n, rfl, hvalue, hrange.1, hrange.2, ?_, ?_⟩
    · intro heq
      exact hquote (hvalue.symm.trans (congrArg Char.toNat heq))
    · intro heq
      exact hback (hvalue.symm.trans (congrArg Char.toNat heq))
  rw [if_neg (by simpa using hrange)]
  -- all others are escaped by units: one within the first plane, two beyond it
  by_cases hplane : n < 0x10000
  · exact .inr (.inl ⟨if_pos hplane, hplane⟩)
  · refine .inr (.inr ⟨_, _, if_neg hplane, Nat.mod_lt _ (by decide), by omega⟩)

/-- A character is spelled, whichever way it is written. -/
theorem spells_escapeCode (c : Char) : Spells c (escapeCode c.toNat) := by
  have hlt : c.toNat < 0x110000 := toNat_lt c
  rcases escapeCode_cases c.toNat with ⟨letter, d, hc, hletter, hd⟩ |
    ⟨d, hc, hd, hcontrol, _, hquote, hback⟩ | ⟨hc, hplane⟩ | ⟨high, low, hc, hlow, hvalue⟩
  · rw [hc, ← Char.toNat_inj.mp hd]
    exact .short hletter
  · rw [hc, ← Char.toNat_inj.mp hd]
    exact .plain (hd ▸ hcontrol) hquote hback
  · exact hc ▸ spells_escapeUnit hplane
  · exact hc ▸ spells_escapeUnits (by omega) hlow hvalue

/-- The characters of a string are spelled one by one. -/
lemma spellsAll_flatMap_escapeCode (s : List Char) :
    SpellsAll s (s.flatMap (fun c => escapeCode c.toNat) ++ ['"']) := by
  induction s with
  | nil => exact .nil
  | cons c s ih =>
    rw [List.flatMap_cons, List.append_assoc]
    exact .cons (spells_escapeCode c) ih

/-- A quoted string is a way to write the string. -/
lemma isString_quote (s : String) : IsString s (quote Char.toNat s) :=
  ⟨_, rfl, spellsAll_flatMap_escapeCode s.toList⟩

/-! ## Integers -/

/-- Only zero is written with a leading zero. -/
lemma eq_zero_of_head?_toDigits {n : Nat} (h : (Nat.toDigits 10 n).head? = some '0') : n = 0 := by
  induction n using Nat.strongRecOn with
  | _ n ih =>
    by_cases hn : n < 10
    · have hall : ∀ d < 10, some d.digitChar = some '0' → d = 0 := by decide
      rw [Nat.toDigits_of_lt_base hn] at h
      exact hall n hn h
    · -- the first digit is that of the number without its last digit
      have happend := Nat.toDigits_append_toDigits (b := 10) (n := n / 10) (d := n % 10)
        (by decide) (by omega) (Nat.mod_lt n (by decide))
      rw [Nat.div_add_mod] at happend
      have hne : Nat.toDigits 10 (n / 10) ≠ [] := Nat.toDigits_ne_nil
      obtain ⟨c, cs, hcs⟩ := List.exists_cons_of_ne_nil hne
      rw [← happend, hcs] at h
      have hzero : n / 10 = 0 := ih (n / 10) (by omega) (hcs ▸ h)
      omega

lemma isNatural_toDigits (n : Nat) : IsNatural n (Nat.toDigits 10 n) where
  isDigit := fun _ hc => Nat.isDigit_of_mem_toDigits (by decide) (by decide) hc
  ne_nil := Nat.toDigits_ne_nil
  leading := by
    intro h
    rw [eq_zero_of_head?_toDigits h]
    rfl
  value := Decimal.value_toDigits n

lemma isInteger_ofInt (n : Int) : IsInteger n (Decimal.ofInt n).toList := by
  cases n with
  | ofNat n =>
    rw [Decimal.ofInt, Decimal.ofNat, String.toList_ofList]
    exact .natural (isNatural_toDigits n)
  | negSucc n =>
    rw [Decimal.ofInt, Decimal.ofNat, String.toList_append, String.toList_ofList,
      String.toList_ofList]
    exact .negative (isNatural_toDigits (n + 1))

/-! ## Lists and objects -/

lemma isGap_nil : IsGap [] := fun _ hc => absurd hc List.not_mem_nil

/-- A line feed and what indents the next line are a gap. -/
lemma isGap_newline (depth : Nat) : IsGap (newline depth) := by
  intro c hc
  rcases List.mem_cons.mp hc with rfl | hc
  · rfl
  · rw [List.eq_of_mem_replicate hc]
    rfl

/-- The parts are written one by one. -/
def AreWritten (parts : List (List Char → Prop)) (texts : List (List Char)) : Prop :=
  List.Forall₂ (fun part text => part text) parts texts

/-- Parts with commas between them and a closing character behind them are parts of a whole. -/
lemma areParts_intercalate {closing : Char} {depth : Nat} {part : List Char → Prop}
    {text : List Char} {parts : List (List Char → Prop)} {texts : List (List Char)}
    (hpart : part text) (h : AreWritten parts texts) :
    AreParts closing (part :: parts)
      (newline (depth + 1) ++ ((',' :: newline (depth + 1)).intercalate (text :: texts) ++
        (newline depth ++ [closing]))) := by
  -- the induction is on the parts after the first one, which is what the commas come before
  induction h generalizing part text with
  | nil =>
    rw [List.intercalate_singleton]
    exact .last (isGap_newline _) hpart (isGap_newline _)
  | @cons part' text' parts texts hpart' _ ih =>
    have hmore := ih hpart'
    rw [List.intercalate_cons_cons, List.append_assoc, List.append_assoc, List.cons_append]
    exact .more (isGap_newline _) hpart isGap_nil hmore

/-- What is written part by part is written as a whole. -/
theorem isEnclosed_enclose {opening closing : Char} {depth : Nat}
    {parts : List (List Char → Prop)} {texts : List (List Char)} (h : AreWritten parts texts) :
    IsEnclosed opening closing parts (enclose opening closing depth texts) := by
  cases h with
  | nil => exact .empty isGap_nil
  | @cons _ text _ texts hpart h =>
    show IsEnclosed opening closing _ (opening :: newline (depth + 1) ++
      (',' :: newline (depth + 1)).intercalate (text :: texts) ++ newline depth ++ [closing])
    rw [List.append_assoc, List.append_assoc]
    exact .parts (areParts_intercalate hpart h)

mutual

/-- A value is written in one of the ways to write it. -/
theorem isValue_render (depth : Nat) : ∀ v, IsValue v (render Char.toNat depth v)
  | int n => isInteger_ofInt n
  | str s => isString_quote s
  | list items => isEnclosed_enclose (written_renderItems (depth + 1) items)
  | object members => isEnclosed_enclose (written_renderMembers (depth + 1) members)

/-- The items of a list are written one by one. -/
lemma written_renderItems (depth : Nat) :
    ∀ items, AreWritten (itemParts items) (renderItems Char.toNat depth items)
  | [] => .nil
  | v :: vs => .cons (isValue_render depth v) (written_renderItems depth vs)

/-- The members of an object are written one by one. -/
lemma written_renderMembers (depth : Nat) :
    ∀ members, AreWritten (memberParts members) (renderMembers Char.toNat depth members)
  | [] => .nil
  | (key, v) :: ms =>
    .cons ⟨quote Char.toNat key, [], [' '], render Char.toNat depth v, rfl, isString_quote key,
      isGap_nil, List.forall_mem_singleton.mpr rfl, isValue_render depth v⟩
      (written_renderMembers depth ms)

end

/-! ## Characters that stand for themselves -/

section Literal

variable {codePoint : Char → Nat}

/-- Every character of the string stands for itself. -/
def IsLiteralString (codePoint : Char → Nat) (s : String) : Prop :=
  ∀ c ∈ s.toList, codePoint c = c.toNat

/-- Every character in the strings and keys of a value stands for itself. -/
inductive IsLiteral (codePoint : Char → Nat) : Json → Prop
  | int (n : Int) : IsLiteral codePoint (int n)
  | str {s : String} (h : IsLiteralString codePoint s) : IsLiteral codePoint (str s)
  | list {items : List Json} (h : ∀ v ∈ items, IsLiteral codePoint v) :
    IsLiteral codePoint (list items)
  | object {members : List (String × Json)} (hkeys : ∀ m ∈ members, IsLiteralString codePoint m.1)
    (h : ∀ m ∈ members, IsLiteral codePoint m.2) : IsLiteral codePoint (object members)

/-- A string of characters that stand for themselves is quoted as such. -/
lemma quote_of_isLiteralString {s : String} (h : IsLiteralString codePoint s) :
    quote codePoint s = quote Char.toNat s := by
  have hcodes : s.toList.flatMap (fun c => escapeCode (codePoint c)) =
      s.toList.flatMap (fun c => escapeCode c.toNat) := by
    rw [List.flatMap_def, List.flatMap_def, List.map_congr_left fun c hc => by rw [h c hc]]
  rw [quote, quote, hcodes]

mutual

/-- A value whose characters stand for themselves is written as such. -/
theorem render_of_isLiteral (depth : Nat) :
    ∀ v, IsLiteral codePoint v → render codePoint depth v = render Char.toNat depth v
  | int _, _ => rfl
  | str _, .str h => quote_of_isLiteralString h
  | list items, .list h =>
    congrArg (enclose '[' ']' depth) (renderItems_of_isLiteral (depth + 1) items h)
  | object members, .object hkeys h =>
    congrArg (enclose '\x7b' '\x7d' depth)
      (renderMembers_of_isLiteral (depth + 1) members hkeys h)

/-- The same for the items of a list. -/
lemma renderItems_of_isLiteral (depth : Nat) :
    ∀ items, (∀ v ∈ items, IsLiteral codePoint v) →
      renderItems codePoint depth items = renderItems Char.toNat depth items
  | [], _ => rfl
  | v :: vs, h => by
    obtain ⟨hv, hvs⟩ := List.forall_mem_cons.mp h
    rw [renderItems, renderItems, render_of_isLiteral depth v hv,
      renderItems_of_isLiteral depth vs hvs]

/-- The same for the members of an object. -/
lemma renderMembers_of_isLiteral (depth : Nat) :
    ∀ members, (∀ m ∈ members, IsLiteralString codePoint m.1) →
      (∀ m ∈ members, IsLiteral codePoint m.2) →
      renderMembers codePoint depth members = renderMembers Char.toNat depth members
  | [], _, _ => rfl
  | (key, v) :: ms, hkeys, h => by
    obtain ⟨hkey, hkeys⟩ := List.forall_mem_cons.mp hkeys
    obtain ⟨hv, hvs⟩ := List.forall_mem_cons.mp h
    rw [renderMembers, renderMembers, quote_of_isLiteralString hkey,
      render_of_isLiteral depth v hv, renderMembers_of_isLiteral depth ms hkeys hvs]

end

/-- The text of a value whose characters stand for themselves holds the value, whatever gap follows
it. -/
theorem isText_text {v : Json} (hv : IsLiteral codePoint v) {gap : String}
    (h : IsGap gap.toList) : IsText v (v.text codePoint ++ gap) := by
  refine ⟨[], render Char.toNat 0 v, gap.toList, ?_, isGap_nil, isValue_render 0 v, h⟩
  rw [text, render_of_isLiteral 0 v hv, String.toList_append, String.toList_ofList,
    List.nil_append]

end Literal

example : (str "\"\x01α😀").text = "\"\\\"\\u0001\\u03b1\\ud83d\\ude00\"" := by rfl

/-! ## Characters -/

/-- Line feeds and printable characters of ASCII. -/
def IsPlain (cs : List Char) : Prop :=
  ∀ c ∈ cs, c = '\n' ∨ 0x20 ≤ c.toNat ∧ c.toNat ≤ 0x7E

instance (cs : List Char) : Decidable (IsPlain cs) :=
  List.decidableBAll (fun c => c = '\n' ∨ 0x20 ≤ c.toNat ∧ c.toNat ≤ 0x7E) cs

lemma isPlain_cons {c : Char} {cs : List Char} (hc : c = '\n' ∨ 0x20 ≤ c.toNat ∧ c.toNat ≤ 0x7E)
    (h : IsPlain cs) : IsPlain (c :: cs) :=
  List.forall_mem_cons.mpr ⟨hc, h⟩

lemma isPlain_append {cs ds : List Char} (hcs : IsPlain cs) (hds : IsPlain ds) :
    IsPlain (cs ++ ds) :=
  List.forall_mem_append.mpr ⟨hcs, hds⟩

lemma isPlain_digitChar {d : Nat} (h : d < 16) : IsPlain [d.digitChar] := by
  have hall : ∀ d < 16, IsPlain [d.digitChar] := by decide
  exact hall d h

lemma isPlain_escapeUnit {n : Nat} (h : n < 0x10000) : IsPlain (escapeUnit n) := by
  rw [escapeUnit, hexadecimal_four h]
  refine isPlain_cons (by decide) (isPlain_cons (by decide) ?_)
  exact isPlain_append (isPlain_digitChar (by omega)) (isPlain_append (isPlain_digitChar (by omega))
    (isPlain_append (isPlain_digitChar (by omega)) (isPlain_digitChar (by omega))))

lemma isPlain_of_escaped? {letter c : Char} (h : escaped? letter = some c) :
    IsPlain [letter] := by
  unfold escaped? at h
  split at h
  case h_9 => contradiction
  all_goals decide

/-- However a code point is written, it is plain. -/
lemma isPlain_escapeCode {n : Nat} (h : n < 0x110000) : IsPlain (escapeCode n) := by
  rcases escapeCode_cases n with ⟨letter, c, hn, hletter, _⟩ |
    ⟨c, hn, hc, hcontrol, hascii, _⟩ | ⟨hn, hlt⟩ | ⟨high, low, hn, hlow, hvalue⟩
  · exact hn ▸ isPlain_cons (by decide) (isPlain_of_escaped? hletter)
  · rw [hn]
    exact List.forall_mem_singleton.mpr (.inr (by omega))
  · exact hn ▸ isPlain_escapeUnit hlt
  · rw [hn]
    exact isPlain_append (isPlain_escapeUnit (by omega)) (isPlain_escapeUnit (by omega))

section Plain

-- whatever characters stand for, it is a code point
variable {codePoint : Char → Nat} (hcode : ∀ c, codePoint c < 0x110000)
include hcode

/-- A quoted string is plain. -/
lemma isPlain_quote (s : String) : IsPlain (quote codePoint s) := by
  refine isPlain_cons (by decide) (isPlain_append ?_ (by decide))
  intro c hc
  obtain ⟨d, _, hd⟩ := List.mem_flatMap.mp hc
  exact isPlain_escapeCode (hcode d) c hd

end Plain

lemma isPlain_ofInt (n : Int) : IsPlain (Decimal.ofInt n).toList := by
  intro c hc
  rcases Decimal.isDigit_of_mem_ofInt hc with hdigit | rfl
  · have hrange := Decimal.toNat_of_isDigit hdigit
    exact .inr (by omega)
  · decide

lemma isPlain_newline (depth : Nat) : IsPlain (newline depth) := by
  refine isPlain_cons (by decide) fun c hc => ?_
  rw [List.eq_of_mem_replicate hc]
  decide

/-- A list or an object is plain, if its parts are. -/
lemma isPlain_enclose {opening closing : Char} {depth : Nat} {texts : List (List Char)}
    (hopening : IsPlain [opening]) (hclosing : IsPlain [closing])
    (h : ∀ text ∈ texts, IsPlain text) : IsPlain (enclose opening closing depth texts) := by
  unfold enclose
  split
  · exact isPlain_append hopening hclosing
  -- every character comes from a part or from what separates the parts
  · have hseparator : IsPlain (',' :: newline (depth + 1)) :=
      isPlain_cons (by decide) (isPlain_newline (depth + 1))
    have hparts : IsPlain ((',' :: newline (depth + 1)).intercalate texts) := by
      intro c hc
      rcases mem_of_mem_intercalate hc with hc | ⟨text, htext, hc⟩
      · exact hseparator c hc
      · exact h text htext c hc
    refine isPlain_append (isPlain_append (isPlain_append ?_ hparts) (isPlain_newline depth))
      hclosing
    exact isPlain_append hopening (isPlain_newline (depth + 1))

section Plain

variable {codePoint : Char → Nat}

mutual

/-- However deep it is, a value is written in plain characters. -/
theorem isPlain_render (hcode : ∀ c, codePoint c < 0x110000) (depth : Nat) :
    ∀ v, IsPlain (render codePoint depth v)
  | int n => isPlain_ofInt n
  | str s => isPlain_quote hcode s
  | list items =>
    isPlain_enclose (by decide) (by decide) (isPlain_renderItems hcode (depth + 1) items)
  | object members =>
    isPlain_enclose (by decide) (by decide) (isPlain_renderMembers hcode (depth + 1) members)

/-- So are the items of a list. -/
lemma isPlain_renderItems (hcode : ∀ c, codePoint c < 0x110000) (depth : Nat) :
    ∀ items, ∀ text ∈ renderItems codePoint depth items, IsPlain text
  | [] => fun _ h => absurd h List.not_mem_nil
  | v :: vs =>
    List.forall_mem_cons.mpr ⟨isPlain_render hcode depth v, isPlain_renderItems hcode depth vs⟩

/-- So are the members of an object. -/
lemma isPlain_renderMembers (hcode : ∀ c, codePoint c < 0x110000) (depth : Nat) :
    ∀ members, ∀ text ∈ renderMembers codePoint depth members, IsPlain text
  | [] => fun _ h => absurd h List.not_mem_nil
  | (key, v) :: ms => List.forall_mem_cons.mpr
    ⟨isPlain_append (isPlain_quote hcode key)
      (isPlain_cons (by decide) (isPlain_cons (by decide) (isPlain_render hcode depth v))),
      isPlain_renderMembers hcode depth ms⟩

end

/-- The text of a value is plain. -/
theorem isPlain_text (hcode : ∀ c, codePoint c < 0x110000) (v : Json) :
    IsPlain (v.text codePoint).toList := by
  rw [text, String.toList_ofList]
  exact isPlain_render hcode 0 v

end Plain

end Json

end HackFrontEnd
