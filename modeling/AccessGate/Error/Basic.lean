import AccessGate.Error.Rule
import AccessGate.Json.Parser
import AccessGate.Text.Utf8

/-! # Errors of the gate

An error holds its cause; the wording is made from the cause when it is told. Each cause belongs to
one of a few kinds, so that whoever starts the gate can tell a bad feed from a bad host. -/
namespace AccessGate

inductive RuleSetFault where
  | empty
  | duplicate (ruleNum : Int)
  | secretKeyInUse (ruleNum : Int)
  deriving DecidableEq, Repr

inductive FeedFault where
  | notText (fault : Text.Utf8.Fault)
  | notJson (reason : Json.Reason) (place : Json.Place)
  | notList
  | notObject (entry : Json)
  deriving Repr

inductive SupplyFault where
  | secretsExhausted
  | portsUnavailable (reason : String)
  | unknownBindHost (host : String)
  deriving DecidableEq, Repr

inductive ErrorClass where
  | general
  | validation
  | consistency
  | provisioning
  | legacyParse
  deriving DecidableEq, Repr

def ErrorClass.kind : ErrorClass → String
  | .general => "validation"
  | .validation => "validation"
  | .consistency => "consistency"
  | .provisioning => "provisioning"
  | .legacyParse => "legacy_parse"

/-- The cause of an error. -/
inductive Fault where
  | rule (f : RuleFault)
  | ruleSet (f : RuleSetFault)
  | feed (path : String) (f : FeedFault)
  | supply (f : SupplyFault)
  | ruleName (name : String)
  /-- A cause that someone else has put into words. -/
  | stated (errorClass : ErrorClass) (text : String)
  deriving Repr

def Fault.errorClass : Fault → ErrorClass
  | .rule _ => .validation
  | .ruleSet _ | .feed _ _ => .consistency
  | .supply _ => .provisioning
  | .ruleName _ => .legacyParse
  | .stated errorClass _ => errorClass

def RuleSetFault.message : RuleSetFault → String
  | .empty => "Must specify at least one rule. An empty rule set usually means the rule feed could " ++
      "not be read correctly."
  | .duplicate n => s!"Duplicate ruleNum entries not allowed. Resource: {Text.decimal n}"
  | .secretKeyInUse n => s!"Secret key of resource {Text.decimal n} is already in use"

def FeedFault.message (path : String) : FeedFault → String
  | .notText fault => s!"Rule feed {path} is not UTF-8 text: {fault.message}"
  | .notJson reason place => s!"Rule feed {path} is not valid JSON: {place.describe reason}"
  | .notList => s!"Rule feed {path} must hold a list of rules"
  | .notObject entry => s!"Rule feed {path} has a non-object entry: {entry.display}"

def SupplyFault.message : SupplyFault → String
  | .secretsExhausted => "Secret generator keeps returning keys already in use"
  | .portsUnavailable reason => s!"Error while trying to obtain ephemeral ports: {reason}"
  | .unknownBindHost host => s!"Couldnt lookup bind host {Text.quoted host}"

def Fault.message : Fault → String
  | .rule f => f.message
  | .ruleSet f => f.message
  | .feed path f => f.message path
  | .supply f => f.message
  | .ruleName name => s!"Rule name {Text.quoted name} is not a rule number"
  | .stated _ text => text

/-- An error: its cause, and the number of the rule it arose at. -/
structure RuleError where
  fault : Fault
  ruleNum : Option Int := none
  deriving Repr

def RuleError.errorClass (e : RuleError) : ErrorClass := e.fault.errorClass

def RuleError.kind (e : RuleError) : String := e.errorClass.kind

/-- The wording of an error. A validation error names the rule it arose at. -/
def RuleError.message (e : RuleError) : String :=
  match e.errorClass, e.ruleNum with
  | .validation, some n => s!"Resource {Text.decimal n} {e.fault.message}"
  | _, _ => e.fault.message

end AccessGate
