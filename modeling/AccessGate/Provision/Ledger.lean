import AccessGate.Error.Failure
import AccessGate.Event

/-! # What provisioning draws on

Secrets and local ports come from the machine, one after the other. A ledger keeps what has been taken
from it; it is never taken back, whatever becomes of the rules it was taken for. -/
namespace AccessGate.Provision

/-- What the machine supplies: a secret for every draw, and for every call a port or a reason why there
is none. Draws and calls count from zero. -/
structure Supply where
  secret : Nat → String
  port : Nat → Except String Int

/-- The keys handed out so far, newest first, the secrets drawn, and the calls for a port. -/
structure Ledger where
  issued : List String := []
  draws : Nat := 0
  portCalls : Nat := 0
  deriving DecidableEq, Repr

/-- What a step comes to: its result, the ledger after it, and the events it told of. -/
structure Outcome (α : Type) where
  result : Except Failure α
  ledger : Ledger
  events : List Event

end AccessGate.Provision
