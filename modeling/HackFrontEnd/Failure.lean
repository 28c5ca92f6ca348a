import HackFrontEnd.File.Load
import HackFrontEnd.SymbolTable.Basic

/-!
# Failures

Everything that can go wrong in a run, in one type, with its wording.
-/

namespace HackFrontEnd

/-- Failures that this library reports about its input. -/
inductive FrontEndError
  | diagnostic (d : Diagnostic)
  | unknownSymbol (u : UnknownSymbol)
  /-- A failure of a symbol table, in the words of the caller. -/
  | symbolTable (message : String)
  /-- Any other failure, in the words of the caller. -/
  | general (message : String)
deriving DecidableEq, Repr

namespace FrontEndError

/-- The family of a failure. -/
def family : FrontEndError → Family
  | diagnostic d => d.fault.family
  | unknownSymbol _ => .unknownSymbol
  | symbolTable _ => .symbolTable
  | general _ => .frontEnd

/-- The failure in words. -/
def message : FrontEndError → String
  | diagnostic d => d.message
  | unknownSymbol u => u.message
  | symbolTable message => message
  | general message => message

end FrontEndError

/-- Failures outside this library, as a caller words them. -/
inductive OutsideCause
  /-- A parameter of the run is not valid. -/
  | badParameter
  | fileNotFound
  | permissionDenied
  | other
deriving DecidableEq, Repr

/-- Whatever can go wrong in a run. -/
inductive Failure
  | frontEnd (e : FrontEndError)
  | numeralTooLong (digits : Nat)
  | load (e : File.LoadError)
  | outside (cause : OutsideCause) (message : String)
deriving DecidableEq, Repr

namespace Failure

/-- A failure to read an instruction. -/
def ofReadError : ReadError → Failure
  | .diagnostic d => frontEnd (.diagnostic d)
  | .numeralTooLong digits => numeralTooLong digits

/-- The failure in words. -/
def message : Failure → String
  | frontEnd e => e.message
  | numeralTooLong digits => ReadError.tooLongMessage digits
  | load e => e.message
  | outside _ message => message

end Failure

end HackFrontEnd
