import AccessGate.Authenticator
import AccessGate.Config.Basic
import AccessGate.Feed
import AccessGate.Listener
import AccessGate.Provision.Basic
import AccessGate.Storage.Disk

/-! # The agent

The agent reads the feed, makes its rules ready for one client, and hands their credentials to the
listener. Every step provisions from scratch: nothing is kept of a set of rules but the ledger. -/
namespace AccessGate.Agent

open AccessGate.Provision

structure Machine extends Supply where
  resolve : Resolver

/-- What is in force after a step: the rules, their credentials, and the listener. -/
structure Ready where
  rules : List Rule
  credentials : List Credential
  listener : Listener

def Ready.authenticator (ready : Ready) : Authenticator := .ofList ready.credentials

def request (config : Config) : Request :=
  { clientId := some config.clientId
    socksPort := config.socksServerPort
    system := systemRules (some config.clientId) config.healthzPort config.user config.domain
      config.healthzGadgetUsers }

/-- Opens the listener for rules that are ready, and projects their credentials. -/
def connect (machine : Machine) (config : Config) (rules : List Rule) : Except Failure Ready := do
  let listener ←
    (Listener.ofHost machine.resolve config.socksBindHost config.socksServerPort).mapError Failure.rule
  let credentials ← projectCredentials loopbackAddress rules
  return ⟨rules, credentials, listener⟩

/-- The event that an error is told as. Other failures are not told. -/
def rejection : Failure → List Event
  | .rule e => [.ruleRejected "provision" e]
  | _ => []

/-- Makes rules ready, and tells of the outcome. -/
def refresh (machine : Machine) (config : Config) (rules : List Rule) (l : Ledger) : Outcome Ready :=
  let provisioned := provision machine.toSupply true (request config) rules l
  match provisioned.result >>= connect machine config with
  | .error f => ⟨.error f, provisioned.ledger, provisioned.events ++ rejection f⟩
  | .ok ready =>
    ⟨.ok ready, provisioned.ledger, provisioned.events ++
      [.credentialsProjected ready.credentials.length ready.listener.port]⟩

def feedPath (config : Config) : Storage.Path := .ofChars config.rulesPath.toList

/-- The rules of the feed, given what reading its file came to. -/
def readFeed (config : Config) (bytes : Except Failure (List UInt8)) : Except Failure (List Rule) := do
  Feed.read (feedPath config).text (← bytes)

/-- Makes the rules of a feed ready. A feed that cannot be read is not told of. -/
def serve (machine : Machine) (config : Config) (feed : Except Failure (List Rule)) (l : Ledger) :
    Outcome Ready :=
  match feed with
  | .error f => ⟨.error f, l, []⟩
  | .ok rules =>
    let refreshed := refresh machine config rules l
    { refreshed with events := .rulesLoaded config.rulesPath rules.length :: refreshed.events }

/-- Reads the feed from a disk and makes its rules ready. -/
def start (machine : Machine) (disk : Storage.Disk) (config : Config) (l : Ledger) : Outcome Ready :=
  serve machine config (readFeed config (disk.read (feedPath config))) l

end AccessGate.Agent
