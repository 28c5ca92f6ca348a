import HackFrontEnd.Text.Quoted
import HackFrontEnd.Text.Similarity

/-!
# Options and operands

Reading the arguments of a tool, and what can be wrong with them. Options and operands may be mixed,
and `--` ends the options. A long option may carry its value after an equals sign, short options may
be run together, and the value of a short option may follow it at once.

An argument is first taken as a long option. Only if there is none of that name, and the argument
does not start with two dashes, is it taken as short options run together.
-/

namespace HackFrontEnd.CommandLine

/-! ## Faults of usage -/

/-- What is wrong with the arguments of a tool. -/
inductive UsageFault
  /-- The tool has no such option; `close` are options like it. -/
  | noSuchOption (name : String) (close : List String)
  /-- The option stands last, without the value it takes. -/
  | missingValue (option : String)
  /-- The option takes no value. -/
  | unwantedValue (option : String)
  | missingOperand (operand : String)
  | unexpectedOperands (operands : List String)
  /-- The file that a parameter names does not exist. -/
  | noSuchFile (parameter path : String)
  /-- The file that a parameter names is a directory. -/
  | isDirectory (parameter path : String)
  /-- The file that a parameter names may not be read. -/
  | notReadable (parameter path : String)
  /-- The value of a parameter is not one of the choices. -/
  | notAChoice (parameter value : String) (choices : List String)
deriving DecidableEq, Repr

namespace UsageFault

/-- The suggestions for an option that does not exist. -/
def suggestion (close : List String) : String :=
  match close.mergeSort (· ≤ ·) with
  | [] => ""
  | [name] => " Did you mean " ++ Text.quoted name ++ "?"
  | names => " (Did you mean one of: " ++ ", ".intercalate (names.map Text.quoted) ++ "?)"

/-- The fault in words. -/
def message : UsageFault → String
  | noSuchOption name close => "No such option " ++ Text.quoted name ++ "." ++ suggestion close
  | missingValue option => "Option " ++ Text.quoted option ++ " requires an argument."
  | unwantedValue option => "Option " ++ Text.quoted option ++ " does not take a value."
  | missingOperand operand => "Missing argument '" ++ operand ++ "'."
  | unexpectedOperands [operand] => "Got unexpected extra argument (" ++ operand ++ ")"
  | unexpectedOperands operands =>
    "Got unexpected extra arguments (" ++ " ".intercalate operands ++ ")"
  | noSuchFile parameter path =>
    "Invalid value for " ++ parameter ++ ": File " ++ Text.quoted path ++ " does not exist."
  | isDirectory parameter path =>
    "Invalid value for " ++ parameter ++ ": File " ++ Text.quoted path ++ " is a directory."
  | notReadable parameter path =>
    "Invalid value for " ++ parameter ++ ": File " ++ Text.quoted path ++ " is not readable."
  | notAChoice parameter value choices =>
    "Invalid value for " ++ parameter ++ ": " ++ Text.quoted value ++ " is not one of " ++
      ", ".intercalate (choices.map Text.quoted) ++ "."

/-- Whether the usage of the tool is shown with the fault. -/
def showsUsage : UsageFault → Bool
  | missingValue _ | unwantedValue _ => false
  | _ => true

end UsageFault

/-! ## Reading arguments -/

/-- An option of a tool: a name of one dash and a letter, if it has one, and a name of two dashes
and a word. -/
structure OptionSpec (α : Type) where
  option : α
  short : Option Char := none
  long : String
  valued : Bool := false

/-- An option that was given, with its value if it takes one. -/
structure Given (α : Type) where
  option : α
  value : Option String := none
deriving DecidableEq, Repr

/-- The options in the order in which they were given, and the other arguments. -/
structure Arguments (α : Type) where
  options : List (Given α) := []
  operands : List String := []
deriving DecidableEq, Repr

variable {α : Type}

/-- What one argument gives: options that are complete, and an option, under the name it was given
by, whose value is the next argument. -/
structure Reading (α : Type) where
  complete : List (Given α) := []
  awaiting : Option (α × String) := none
deriving DecidableEq, Repr

/-- The short options that are run together in an argument. -/
def readShort (specs : List (OptionSpec α)) : List Char → Except UsageFault (Reading α)
  | [] => .ok {}
  | c :: cs =>
    let name := String.ofList ['-', c]
    match specs.find? (·.short == some c) with
    | none => .error (.noSuchOption name [])
    | some spec =>
      if !spec.valued then do
        let rest ← readShort specs cs
        pure { rest with complete := ⟨spec.option, none⟩ :: rest.complete }
      else if cs.isEmpty then .ok { awaiting := some (spec.option, name) }
      else .ok { complete := [⟨spec.option, some (String.ofList cs)⟩] }

/-- What an argument that starts with a dash gives. -/
def readOption (specs : List (OptionSpec α)) (arg : List Char) : Except UsageFault (Reading α) :=
  let name := String.ofList (arg.takeWhile (· != '='))
  let value := match arg.dropWhile (· != '=') with
    | [] => none
    | _ :: value => some (String.ofList value)
  match specs.find? (·.long == name), value with
  | some spec, some v =>
    if spec.valued then .ok { complete := [⟨spec.option, some v⟩] }
    else .error (.unwantedValue name)
  | some spec, none =>
    if spec.valued then .ok { awaiting := some (spec.option, name) }
    else .ok { complete := [⟨spec.option, none⟩] }
  | none, _ =>
    -- short options run together never start with two dashes
    if ['-', '-'].isPrefixOf arg then
      .error (.noSuchOption name (Text.closeMatches name (specs.map (·.long))))
    else readShort specs arg.tail

/-- Whether an argument is an option: a dash and at least one more character. -/
def isOption (arg : String) : Bool :=
  match arg.toList with
  | '-' :: _ :: _ => true
  | _ => false

/-- The options and operands in a list of arguments. -/
def readArguments (specs : List (OptionSpec α)) : List String → Except UsageFault (Arguments α)
  | [] => .ok {}
  | arg :: args =>
    if arg = "--" then .ok { operands := args }
    else if !isOption arg then do
      let rest ← readArguments specs args
      pure { rest with operands := arg :: rest.operands }
    else
      match readOption specs arg.toList with
      | .error f => .error f
      | .ok ⟨complete, none⟩ => do
        let rest ← readArguments specs args
        pure { rest with options := complete ++ rest.options }
      | .ok ⟨complete, some (option, name)⟩ =>
        match args with
        | [] => .error (.missingValue name)
        | value :: args => do
          let rest ← readArguments specs args
          pure { rest with options := complete ++ ⟨option, some value⟩ :: rest.options }

namespace Arguments

/-- The options that were given, each once, in the order in which they first were. -/
def distinct [BEq α] (a : Arguments α) : List α :=
  (a.options.map (·.option)).eraseDups

/-- Whether an option was given. -/
def has [BEq α] (a : Arguments α) (option : α) : Bool :=
  a.options.any (·.option == option)

/-- The value of an option. The last one counts. -/
def value? [BEq α] (a : Arguments α) (option : α) : Option String :=
  (a.options.reverse.find? (·.option == option)).bind (·.value)

end Arguments

end HackFrontEnd.CommandLine
