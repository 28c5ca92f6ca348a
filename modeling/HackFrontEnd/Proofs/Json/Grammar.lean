import HackFrontEnd.Json.Basic
import Mathlib.Tactic.Lemma

/-!
# The grammar of JSON

Which texts denote which values, for values without fractions. A value can be written in many ways:
with any gaps between the tokens, and with a choice of escapes for each character of a string.

* `IsValue`: the ways to write a value;
* `IsText`: the texts that hold a value and nothing else;
* `Conforming`: what is expected of a reader.
-/

namespace HackFrontEnd.Json

open Text

/-! ## Gaps -/

/-- Whether a character may stand between tokens. -/
def isSpace (c : Char) : Bool :=
  c == ' ' || c == '\t' || c == '\n' || c == '\r'

/-- A text that may stand between tokens. -/
def IsGap (cs : List Char) : Prop := ∀ c ∈ cs, isSpace c = true

/-! ## Strings -/

/-- The number that a hexadecimal digit stands for. Letters of either case are digits. -/
def hexValue? (c : Char) : Option Nat :=
  if '0' ≤ c && c ≤ '9' then some (c.toNat - '0'.toNat)
  else if 'a' ≤ c && c ≤ 'f' then some (c.toNat - 'a'.toNat + 10)
  else if 'A' ≤ c && c ≤ 'F' then some (c.toNat - 'A'.toNat + 10)
  else none

/-- The UTF-16 unit that four hexadecimal digits stand for. -/
def unit? (a b c d : Char) : Option Nat :=
  match hexValue? a, hexValue? b, hexValue? c, hexValue? d with
  | some a, some b, some c, some d => some (0x1000 * a + 0x100 * b + 0x10 * c + d)
  | _, _, _, _ => none

/-- The character that is meant by a backslash and one more character. -/
def escaped? : Char → Option Char
  | '"' => some '"'
  | '\\' => some '\\'
  | '/' => some '/'
  | 'b' => some '\x08'
  | 'f' => some '\x0c'
  | 'n' => some '\n'
  | 'r' => some '\r'
  | 't' => some '\t'
  | _ => none

/-- The ways to write a character in a string. -/
inductive Spells : Char → List Char → Prop
  /-- The character itself, if it is neither a control character nor a quote nor a backslash. -/
  | plain {c : Char} (hcontrol : 0x20 ≤ c.toNat) (hquote : c ≠ '"') (hback : c ≠ '\\') :
    Spells c [c]
  | short {c letter : Char} (h : escaped? letter = some c) : Spells c ['\\', letter]
  | unit {c a₁ a₂ a₃ a₄ : Char} (h : unit? a₁ a₂ a₃ a₄ = some c.toNat) :
    Spells c ['\\', 'u', a₁, a₂, a₃, a₄]
  /-- A high and a low surrogate, with ten bits each of what is beyond the first plane. -/
  | surrogates {c a₁ a₂ a₃ a₄ b₁ b₂ b₃ b₄ : Char} {high low : Nat}
    (hhigh : unit? a₁ a₂ a₃ a₄ = some (0xD800 + high))
    (hlow : unit? b₁ b₂ b₃ b₄ = some (0xDC00 + low)) (hhigh_lt : high < 0x400)
    (hlow_lt : low < 0x400) (h : c.toNat = 0x10000 + 0x400 * high + low) :
    Spells c ['\\', 'u', a₁, a₂, a₃, a₄, '\\', 'u', b₁, b₂, b₃, b₄]

/-- The ways to write the characters of a string, and the quote that ends it. -/
inductive SpellsAll : List Char → List Char → Prop
  | nil : SpellsAll [] ['"']
  | cons {c : Char} {s cs rest : List Char} (h : Spells c cs) (hrest : SpellsAll s rest) :
    SpellsAll (c :: s) (cs ++ rest)

/-- The ways to write a string. -/
def IsString (s : String) (cs : List Char) : Prop :=
  ∃ body, cs = '"' :: body ∧ SpellsAll s.toList body

/-! ## Integers -/

/-- The digits of a natural number. Only zero starts with the digit zero. -/
structure IsNatural (n : Nat) (cs : List Char) : Prop where
  isDigit : ∀ c ∈ cs, c.isDigit = true
  ne_nil : cs ≠ []
  leading : cs.head? = some '0' → cs = ['0']
  value : Decimal.value cs = n

/-- The ways to write an integer. -/
inductive IsInteger : Int → List Char → Prop
  | natural {n : Nat} {cs : List Char} (h : IsNatural n cs) : IsInteger n cs
  | negative {n : Nat} {cs : List Char} (h : IsNatural n cs) : IsInteger (-n) ('-' :: cs)

/-! ## Lists and objects -/

/-- Parts with commas between them and a closing character at the end. A part is given by the ways
to write it. -/
inductive AreParts (closing : Char) : List (List Char → Prop) → List Char → Prop
  | last {part : List Char → Prop} {before cs after : List Char} (hbefore : IsGap before)
    (h : part cs) (hafter : IsGap after) :
    AreParts closing [part] (before ++ (cs ++ (after ++ [closing])))
  | more {part : List Char → Prop} {parts : List (List Char → Prop)}
    {before cs after rest : List Char} (hbefore : IsGap before) (h : part cs)
    (hafter : IsGap after) (hrest : AreParts closing parts rest) :
    AreParts closing (part :: parts) (before ++ (cs ++ (after ++ ',' :: rest)))

/-- Any number of parts between an opening and a closing character. -/
inductive IsEnclosed (opening closing : Char) : List (List Char → Prop) → List Char → Prop
  | empty {gap : List Char} (h : IsGap gap) :
    IsEnclosed opening closing [] (opening :: (gap ++ [closing]))
  | parts {parts : List (List Char → Prop)} {cs : List Char} (h : AreParts closing parts cs) :
    IsEnclosed opening closing parts (opening :: cs)

/-- A member of an object: its key, a colon, and a way to write its value. -/
def IsMember (key : String) (isValue : List Char → Prop) (cs : List Char) : Prop :=
  ∃ name before after value, cs = name ++ (before ++ ':' :: (after ++ value)) ∧
    IsString key name ∧ IsGap before ∧ IsGap after ∧ isValue value

mutual

/-- The ways to write a value. -/
def IsValue : Json → List Char → Prop
  | int n => IsInteger n
  | str s => IsString s
  | list items => IsEnclosed '[' ']' (itemParts items)
  | object members => IsEnclosed '\x7b' '\x7d' (memberParts members)

/-- The ways to write each item of a list. -/
def itemParts : List Json → List (List Char → Prop)
  | [] => []
  | v :: vs => IsValue v :: itemParts vs

/-- The ways to write each member of an object. -/
def memberParts : List (String × Json) → List (List Char → Prop)
  | [] => []
  | (key, v) :: ms => IsMember key (IsValue v) :: memberParts ms

end

/-! ## Texts and readers -/

/-- The texts that hold a value and nothing else. -/
def IsText (v : Json) (s : String) : Prop :=
  ∃ before cs after, s.toList = before ++ (cs ++ after) ∧
    IsGap before ∧ IsValue v cs ∧ IsGap after

/-- No two members of an object have the same key, in all of a value. -/
inductive HasDistinctKeys : Json → Prop
  | int (n : Int) : HasDistinctKeys (int n)
  | str (s : String) : HasDistinctKeys (str s)
  | list {items : List Json} (h : ∀ v ∈ items, HasDistinctKeys v) : HasDistinctKeys (list items)
  | object {members : List (String × Json)} (hkeys : (members.map Prod.fst).Nodup)
    (h : ∀ m ∈ members, HasDistinctKeys m.2) : HasDistinctKeys (object members)

/-- A reader finds the value of every text that holds one. What it makes of an object where a key is
repeated is up to it. -/
def Conforming (read : String → Option Json) : Prop :=
  ∀ s v, HasDistinctKeys v → IsText v s → read s = some v

end HackFrontEnd.Json
