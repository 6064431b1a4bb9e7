import AccessGate.Error.Basic

/-! # The listener

The address that clients connect to: the first address of the host the settings name. -/
namespace AccessGate

/-- The first address of a host, if the host is known. -/
abbrev Resolver := String → Option String

structure Listener where
  address : String
  port : Int
  deriving DecidableEq, Repr

def bindAddress (resolve : Resolver) (host : String) : Except RuleError String :=
  match resolve host with
  | some address => .ok address
  | none => .error ⟨.supply (.unknownBindHost host), none⟩

def Listener.ofHost (resolve : Resolver) (host : String) (port : Int) : Except RuleError Listener :=
  (bindAddress resolve host).map fun address => ⟨address, port⟩

end AccessGate
