/-!
# Kinds of instruction

The nine kinds of instruction of the stack language, and the keywords that select them. The table
`keywords` is the only place that knows this mapping.
-/

namespace HackFrontEnd

/-- The kinds of instruction. -/
inductive Kind
  | arithmetic
  | push
  | pop
  | label
  | goto
  | ifGoto
  | function
  | ret
  | call
deriving DecidableEq, Repr

namespace Kind

/-- All kinds, in the order of their numbers. -/
def all : List Kind :=
  [arithmetic, push, pop, label, goto, ifGoto, function, ret, call]

/-- The number of a kind, counted from one. -/
def number (k : Kind) : Nat :=
  all.idxOf k + 1

/-- The name of a kind in listings and reports. -/
def name : Kind → String
  | arithmetic => "ARITHMETIC"
  | push => "PUSH"
  | pop => "POP"
  | label => "LABEL"
  | goto => "GOTO"
  | ifGoto => "IF"
  | function => "FUNCTION"
  | ret => "RETURN"
  | call => "CALL"

/-- Whether instructions of the kind have a second operand, which is a number. -/
def hasNumber : Kind → Bool
  | push | pop | function | call => true
  | _ => false

end Kind

/-- The operators that take their operands from the stack, in alphabetical order. -/
def arithmeticOperators : List String :=
  ["add", "and", "eq", "gt", "lt", "neg", "not", "or", "sub"]

/-- The keywords and the kinds they select. -/
def keywords : List (String × Kind) :=
  arithmeticOperators.map (·, .arithmetic) ++
    [("push", .push), ("pop", .pop), ("label", .label), ("goto", .goto), ("if-goto", .ifGoto),
      ("function", .function), ("call", .call), ("return", .ret)]

/-- The kind that a keyword selects. -/
def Kind.ofKeyword? (keyword : String) : Option Kind :=
  keywords.lookup keyword

end HackFrontEnd
