import HackFrontEnd.Encoding.Basic
import HackFrontEnd.Log
import HackFrontEnd.Source

/-!
# Settings

The settings of a run, and reading them from the environment. A variable that is absent, blank or
not valid leaves the default in place, so reading fails only if it cannot be found out whether a
value is valid: if looking up the name of an encoding fails outright.
-/

namespace HackFrontEnd

/-- What may be set for a run. -/
structure Settings where
  /-- The start of a comment line. -/
  commentMarker : String := Source.defaultMarker
  /-- The name of the level from which on records are shown. -/
  logLevel : String := Level.warning.name
  /-- The name of the encoding of source files. -/
  sourceEncoding : String := Encoding.defaultName
deriving DecidableEq, Repr

/-- The environment variables that matter. -/
structure Environment where
  commentMarker : Option String := none
  logLevel : Option String := none
  sourceEncoding : Option String := none
deriving DecidableEq, Repr

namespace Settings

/-- The capital of a letter, for the letters whose capital is an ASCII letter. Besides the small
letters of ASCII these are the dotless i and the long s. -/
def capital (c : Char) : Char :=
  if c = '\u0131' then 'I' else if c = '\u017f' then 'S' else c.toUpper

/-- The marker that a value sets: what is left without the blanks around it, if that is anything. -/
def markerOf? (value : String) : Option String :=
  let marker := Text.trim value.toList
  if marker.isEmpty then none else some (String.ofList marker)

/-- The level that a value names, in letters of either case. -/
def levelOf? (value : String) : Option Level :=
  let name := String.ofList (value.toList.map capital)
  Level.all.find? (·.name == name)

/-- The encoding that a value names, as spelled, where some names are known. -/
def encodingOf? (known : String → Bool) (value : String) : Option String :=
  if value ≠ "" && known value then some value else none

/-- The settings that the environment asks for, where some names of encodings are known. -/
def ofEnvironmentKnowing (known : String → Bool) (env : Environment) : Settings where
  commentMarker := (env.commentMarker.bind markerOf?).getD Source.defaultMarker
  logLevel := ((env.logLevel.bind levelOf?).getD .warning).name
  sourceEncoding := (env.sourceEncoding.bind (encodingOf? known)).getD Encoding.defaultName

/-- The settings that the environment asks for, where looking up the name of an encoding tells
whether it is known or fails. Only the name that the environment holds is looked up. -/
def read {ε : Type} (isKnown : String → Except ε Bool) (env : Environment) : Except ε Settings := do
  let known ← match env.sourceEncoding with
    | none | some "" => pure false
    | some name => isKnown name
  pure (ofEnvironmentKnowing (fun _ => known) env)

/-- The number of the level from which on records are shown. -/
def logThreshold (s : Settings) : Nat :=
  Level.numberOf s.logLevel

end Settings

end HackFrontEnd
