import AccessGate.Error.Basic
import AccessGate.Rule.Basic

/-! # The rules of one client

What provisioning does to rules without taking anything from the machine: it reads their numbers from
their names, narrows them to one client, and fills in the port of the listener. -/
namespace AccessGate.Provision

/-- Takes the number of a rule from its name, if it has one. -/
def renumberRule (r : Rule) : Except RuleError Rule :=
  match r.name with
  | none => .ok r
  | some name =>
    match Text.integer? (Text.trim name) with
    | some n => .ok { r with ruleNum := n }
    | none => .error ⟨.ruleName name, none⟩

def renumber (rules : List Rule) : Except RuleError (List Rule) := rules.mapM renumberRule

/-- The rules for one client: those that name it and those for all clients, which are made out to it.
Ids are compared as they are written. -/
def scope (clientId : Option String) (rules : List Rule) : List Rule :=
  (rules.filter fun r => r.clientId = clientId || r.clientId = some allClients).map
    fun r => { r with clientId }

def assignSocksPort (port : Int) (rules : List Rule) : List Rule :=
  rules.map fun r => { r with socksServerPort := some port }

end AccessGate.Provision
