/-!
# Decimal numerals

Writing integers in base ten, and reading the numerals an instruction may carry.

- `Decimal.read` accepts one leading plus sign and then ASCII digits only, and refuses numerals
  beyond `Decimal.maxDigits` digits before it computes their value.
- `value_toDigits`: a written natural number reads back.
-/

namespace HackFrontEnd.Text.Decimal

/-- The shortest numeral of a natural number. -/
def ofNat (n : Nat) : String :=
  String.ofList (Nat.toDigits 10 n)

/-- The shortest numeral of an integer, with a minus sign below zero. -/
def ofInt : Int → String
  | .ofNat n => ofNat n
  | .negSucc n => "-" ++ ofNat (n + 1)

/-- The number that a run of digits denotes. -/
def value (digits : List Char) : Nat :=
  digits.foldl (fun n c => 10 * n + (c.toNat - '0'.toNat)) 0

/-- The length of the longest numeral that is read. Leading zeros count. -/
def maxDigits : Nat := 4300

/-- Why a text was not read as a number. -/
inductive Fault
  /-- The text is no numeral. -/
  | notANumeral
  /-- The numeral has this many digits, which is more than `maxDigits`. -/
  | tooLong (digits : Nat)
deriving DecidableEq, Repr

/-- The text without a single leading plus sign. -/
def unsigned : List Char → List Char
  | '+' :: cs => cs
  | cs => cs

/-- The number that a numeral denotes: an optional plus sign, then at least one digit. -/
def read (cs : List Char) : Except Fault Nat :=
  let digits := unsigned cs
  if digits.isEmpty || !digits.all Char.isDigit then .error .notANumeral
  else if maxDigits < digits.length then .error (.tooLong digits.length)
  else .ok (value digits)

/-! ## Laws -/

/-- One more digit at the end multiplies the value by ten and adds to it. -/
theorem value_append_singleton (ds : List Char) (c : Char) :
    value (ds ++ [c]) = 10 * value ds + (c.toNat - '0'.toNat) := by
  simp [value]

/-- A written natural number reads back. -/
theorem value_toDigits (n : Nat) : value (Nat.toDigits 10 n) = n := by
  induction n using Nat.strongRecOn with
  | _ n ih =>
    by_cases h : n < 10
    · rw [Nat.toDigits_of_lt_base h]
      simp [value, Nat.toNat_digitChar_of_lt_ten h]
    · have hd : n % 10 < 10 := Nat.mod_lt _ (by decide)
      have happ := Nat.toDigits_append_toDigits (b := 10) (n := n / 10) (d := n % 10)
        (by decide) (by omega) hd
      rw [Nat.div_add_mod, Nat.toDigits_of_lt_base hd] at happ
      rw [← happ, value_append_singleton, ih (n / 10) (by omega),
        Nat.toNat_digitChar_of_lt_ten hd]
      have : '0'.toNat = 48 := rfl
      omega

/-- Different natural numbers have different numerals. -/
theorem ofNat_inj {m n : Nat} (h : ofNat m = ofNat n) : m = n := by
  have := congrArg (value ·.toList) h
  simpa [ofNat, value_toDigits] using this

end HackFrontEnd.Text.Decimal
