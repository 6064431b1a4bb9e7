import AccessGate.Provision.Basic

/-! # Steps of provisioning

Besides the whole way, each of its steps can be taken alone. Steps that are taken one after the other
share a ledger, so that a key handed out in one of them is not handed out again in a later one. -/
namespace AccessGate.Provision

inductive Step where
  | renumber
  | scope (clientId : Option String)
  | assignSocksPort (port : Int)
  | assignKeys
  | allocatePorts
  | provision (request : Request)

def Step.run (supply : Supply) (logging : Bool) (rules : List Rule) (l : Ledger) :
    Step → Outcome (List Rule)
  | .renumber => ⟨(Provision.renumber rules).mapError Failure.rule, l, []⟩
  | .scope clientId => ⟨.ok (Provision.scope clientId rules), l, []⟩
  | .assignSocksPort port => ⟨.ok (Provision.assignSocksPort port rules), l, []⟩
  | .assignKeys =>
    let (result, l) := Provision.assignKeys supply.secret rules l
    ⟨result.mapError Failure.rule, l, []⟩
  | .allocatePorts =>
    let (result, l, events) := Provision.allocatePorts supply.port rules l
    ⟨result.mapError Failure.rule, l, told logging events⟩
  | .provision request => Provision.provision supply logging request rules l

end AccessGate.Provision
