import AccessGate.Listener

/-! # Finding a free port

The machine is asked for a free port by binding a socket to port zero. The socket is closed at once,
so the port was free a moment ago and nothing more. -/
namespace AccessGate.Provision

inductive Family where
  | ipv4
  | ipv6
  deriving DecidableEq, Repr

/-- The family of an address: with colons or without. -/
def Family.ofAddress (address : String) : Family :=
  if address.toList.contains ':' then .ipv6 else .ipv4

/-- A socket as it was left behind: the address that it was bound to, if it was bound. -/
structure Socket where
  family : Family
  bound : Option String
  closed : Bool
  deriving DecidableEq, Repr

inductive ProbeFault where
  | unknownHost
  | notBound (reason : String)
  deriving DecidableEq, Repr

def ProbeFault.message : ProbeFault → String
  | .unknownHost => "[Errno -2] Name or service not known"
  | .notBound reason => reason

/-- Asks for a free port at a host, where `bind` is the machine's answer to the binding. The socket is
closed whether it could be bound or not. -/
def probePort (resolve : Resolver) (bind : Except String Int) (host : String) :
    Except ProbeFault Int × List Socket :=
  match resolve host with
  | none => (.error .unknownHost, [])
  | some address =>
    match bind with
    | .error reason => (.error (.notBound reason), [⟨.ofAddress address, none, true⟩])
    | .ok port => (.ok port, [⟨.ofAddress address, some address, true⟩])

end AccessGate.Provision
