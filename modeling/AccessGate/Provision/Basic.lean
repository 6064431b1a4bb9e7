import AccessGate.Provision.Key
import AccessGate.Provision.ProxyPort
import AccessGate.Provision.Scope
import AccessGate.Rule.Set

/-! # Provisioning

The way from the rules of a feed to the set that is served for one client: the rules are renumbered,
checked, narrowed to the client and joined with the system rules; then each gets the port of the
listener, a key, and a local port where it needs one; and the whole set is checked once more before it
is handed out. -/
namespace AccessGate.Provision

/-- What a client is served with besides the rules of the feed. -/
structure Request where
  clientId : Option String
  socksPort : Int
  system : List Rule := []

/-- The rules that are to be served, before anything is taken from the machine. -/
def prepare (request : Request) (rules : List Rule) : Except RuleError (List Rule) := do
  let rules ← renumber rules
  RuleSet.validate rules
  return assignSocksPort request.socksPort (scope request.clientId rules ++ request.system)

/-- The event that a set of rules is ready, for a log that is kept; without one nothing is told. -/
def announce (logging : Bool) (clientId : Option String) (rules : List Rule) : Except Failure (List Event) :=
  if logging then (Event.provisionedOf clientId rules).map ([·]) else .ok []

/-- The events that reach a log. -/
def told (logging : Bool) (events : List Event) : List Event := if logging then events else []

/-- Makes the rules of a feed ready for a client. -/
def provision (supply : Supply) (logging : Bool) (request : Request) (rules : List Rule) (l : Ledger) :
    Outcome (List Rule) :=
  match prepare request rules with
  | .error e => ⟨.error (.rule e), l, []⟩
  | .ok ready =>
    match assignKeys supply.secret ready l with
    | (.error e, l) => ⟨.error (.rule e), l, []⟩
    | (.ok keyed, l) =>
      match allocatePorts supply.port keyed l with
      | (.error e, l, events) => ⟨.error (.rule e), l, told logging events⟩
      | (.ok ready, l, events) =>
        match RuleSet.validateRuntime ready with
        | .error e => ⟨.error (.rule e), l, told logging events⟩
        | .ok () =>
          match announce logging request.clientId ready with
          | .error f => ⟨.error f, l, told logging events⟩
          | .ok last => ⟨.ok ready, l, told logging events ++ last⟩

end AccessGate.Provision
