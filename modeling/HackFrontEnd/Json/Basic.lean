import HackFrontEnd.Text.Decimal
import HackFrontEnd.Text.Quoted

/-!
# JSON text

Values without fractions, and their text: indented by two spaces a level, in printable ASCII alone.
Other characters are written as escaped UTF-16 units.
-/

namespace HackFrontEnd

/-- A JSON value. Members of an object keep their order. -/
inductive Json
  | int (n : Int)
  | str (s : String)
  | list (items : List Json)
  | object (members : List (String × Json))

namespace Json

/-- One UTF-16 unit, escaped. -/
def escapeUnit (n : Nat) : List Char :=
  '\\' :: 'u' :: Text.hexadecimal 4 n

/-- How a code point is written in a string. Those beyond four hexadecimal digits are written as
a high and a low surrogate. -/
def escapeCode (n : Nat) : List Char :=
  if n = 0x22 then ['\\', '"']
  else if n = 0x5C then ['\\', '\\']
  else if n = 0x0A then ['\\', 'n']
  else if n = 0x0D then ['\\', 'r']
  else if n = 0x09 then ['\\', 't']
  else if n = 0x0C then ['\\', 'f']
  else if n = 0x08 then ['\\', 'b']
  else if 0x20 ≤ n && n < 0x7F then [Char.ofNat n]
  else if n < 0x10000 then escapeUnit n
  else
    let offset := n - 0x10000
    escapeUnit (0xD800 + offset / 0x400) ++ escapeUnit (0xDC00 + offset % 0x400)

section Rendering

-- the code point that each character stands for
variable (codePoint : Char → Nat)

/-- A string between double quotes. -/
def quote (s : String) : List Char :=
  '"' :: s.toList.flatMap (fun c => escapeCode (codePoint c)) ++ ['"']

/-- A new line, indented. -/
def newline (depth : Nat) : List Char :=
  '\n' :: List.replicate (2 * depth) ' '

/-- The written parts with commas between them, each on a line of its own. -/
def enclose (opening closing : Char) (depth : Nat) : List (List Char) → List Char
  | [] => [opening, closing]
  | parts =>
    let separator := ',' :: newline (depth + 1)
    opening :: newline (depth + 1) ++ separator.intercalate parts ++ newline depth ++ [closing]

mutual

/-- The text of a value at a depth of indentation. -/
def render (depth : Nat) : Json → List Char
  | int n => (Text.Decimal.ofInt n).toList
  | str s => quote codePoint s
  | list items => enclose '[' ']' depth (renderItems (depth + 1) items)
  | object members => enclose '\x7b' '\x7d' depth (renderMembers (depth + 1) members)

/-- The texts of the items of a list. -/
def renderItems (depth : Nat) : List Json → List (List Char)
  | [] => []
  | v :: vs => render depth v :: renderItems depth vs

/-- The texts of the members of an object. -/
def renderMembers (depth : Nat) : List (String × Json) → List (List Char)
  | [] => []
  | (key, v) :: ms =>
    (quote codePoint key ++ ':' :: ' ' :: render depth v) :: renderMembers depth ms

end

end Rendering

/-- The text of a value, whose characters stand for themselves unless it is said otherwise. -/
def text (v : Json) (codePoint : Char → Nat := Char.toNat) : String :=
  String.ofList (render codePoint 0 v)

end Json

end HackFrontEnd
