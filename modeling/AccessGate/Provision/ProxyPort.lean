import AccessGate.Provision.Ledger

/-! # Local ports

Rules for plain http are served by a local proxy, which listens on a port of its own for each of them.
Other rules keep what they have. -/
namespace AccessGate.Provision

/-- Gives each rule for plain http a port of the machine, and tells of it. -/
def allocatePorts (port : Nat → Except String Int) :
    List Rule → Ledger → Except RuleError (List Rule) × Ledger × List Event
  | [], l => (.ok [], l, [])
  | r :: rest, l =>
    if r.scheme? = some .http then
      let answer := port l.portCalls
      let l := { l with portCalls := l.portCalls + 1 }
      match answer with
      | .error reason => (.error ⟨.supply (.portsUnavailable reason), some r.ruleNum⟩, l, [])
      | .ok p =>
        let (others, l, events) := allocatePorts port rest l
        (others.map fun others => { r with httpProxyPort := some p } :: others, l,
          .portAllocated r.ruleNum p :: events)
    else
      let (others, l, events) := allocatePorts port rest l
      (others.map fun others => r :: others, l, events)

end AccessGate.Provision
