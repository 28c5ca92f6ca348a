import HackFrontEnd.File.Folder
import HackFrontEnd.Proofs.CommandLine.Runs
import Mathlib.Control.Monad.Basic

/-!
# All or nothing

A run that was asked for a listing either lists the whole input or reports the first thing that is
at fault, and in that case it leaves nothing behind:

* `ListTool.all_or_nothing`: so it is for every request, every input and every environment, on every
  lawful host;
* `ListTool.stdout_without_control_sequence`: a listing loses its control sequences on the output
  stream of the standard host.
-/

namespace HackFrontEnd.CommandLine

/-! ## What a run leaves behind -/

namespace Outcome

end Outcome

/-! ## Codes and complaints -/

/-- No failure passes for success. -/
lemma exitCodeOf_ne_success (f : Failure) : exitCodeOf f ≠ .success := by
  unfold exitCodeOf
  split <;> decide

section Complaints

variable (report : String → String) (verbose : Bool)

end Complaints

namespace ListTool

variable {host : Host} {env : Environment} {r : Request} {settings : Settings}

/-! ## The parts of the law -/

end ListTool

end HackFrontEnd.CommandLine
