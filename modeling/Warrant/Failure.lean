import Warrant.Fault
import Warrant.Refusal

/-!
# Failures

What can come of an operation besides its result: a refusal, which the caller
is told about, or a fault, which nobody has answered yet.
-/

namespace Warrant

/-- Why an operation has no result. -/
inductive Failure where
  | refused (why : Refusal)
  | broke (why : Fault)

namespace Failure

/-- A fault as a failure. -/
def ofFault {α : Type} : Except Fault α → Except Failure α
  | .ok a => .ok a
  | .error e => .error (.broke e)

/-- A refusal as a failure. -/
def ofRefusal {α : Type} : Except Refusal α → Except Failure α
  | .ok a => .ok a
  | .error e => .error (.refused e)

end Failure

end Warrant
