/-!
# Log records

Levels of importance with their names and numbers, and records of what happened.
-/

namespace HackFrontEnd

/-- How important a record is. -/
inductive Level
  | debug
  | info
  | warning
  | error
  | critical
deriving DecidableEq, Repr

namespace Level

/-- All levels, the least important first. -/
def all : List Level := [debug, info, warning, error, critical]

/-- The name of a level in settings and in logs. -/
def name : Level → String
  | debug => "DEBUG"
  | info => "INFO"
  | warning => "WARNING"
  | error => "ERROR"
  | critical => "CRITICAL"

/-- The number that levels are compared by. -/
def number : Level → Nat
  | debug => 10
  | info => 20
  | warning => 30
  | error => 40
  | critical => 50

/-- Other names that stand for a number. -/
def otherNames : List (String × Nat) :=
  [("WARN", warning.number), ("FATAL", critical.number), ("NOTSET", 0)]

/-- The number that a name stands for, as spelled. -/
def numberOf? (name : String) : Option Nat :=
  ((all.map fun l => (l.name, l.number)) ++ otherNames).lookup name

/-- The number that a name stands for; that of `warning` if it stands for none. -/
def numberOf (name : String) : Nat :=
  (numberOf? name).getD warning.number

end Level

/-- A level and a message. -/
structure LogRecord where
  level : Level
  message : String
deriving DecidableEq, Repr

/-- The level and the message with a colon between them. -/
def LogRecord.labelled (r : LogRecord) : String :=
  r.level.name ++ ": " ++ r.message

end HackFrontEnd
