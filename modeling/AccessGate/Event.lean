import AccessGate.Error.Failure
import AccessGate.Json.Printer

/-! # Events

What the gate tells its log. An event is one line of JSON; it never holds a secret key. -/
namespace AccessGate

structure RuleSummary where
  num : Int
  pattern : Option String
  patternType : Option String
  httpPort : Option Int
  deriving DecidableEq, Repr

/-- The summary of a rule. A pattern type that is still a text has no name, unless it is empty, when it
counts as none. -/
def Rule.summary (r : Rule) : Except Failure RuleSummary :=
  match r.patternType with
  | none => .ok ⟨r.ruleNum, r.pattern, none, r.httpProxyPort⟩
  | some (.known t) => .ok ⟨r.ruleNum, r.pattern, some t.name, r.httpProxyPort⟩
  | some (.written s) =>
    if s.isEmpty then .ok ⟨r.ruleNum, r.pattern, none, r.httpProxyPort⟩
    else .error .unnamedPatternType

inductive Event where
  | rulesLoaded (source : String) (count : Int)
  | ruleRejected (stage : String) (error : RuleError)
  | portAllocated (ruleNum port : Int)
  | provisioned (client : Option String) (rules : List RuleSummary)
  | credentialsProjected (count socksPort : Int)
  | message (text : String)
  /-- A remark with members of its own. -/
  | remark (members : List (String × Json))
  deriving Repr

namespace Event

def provisionedOf (client : Option String) (rules : List Rule) : Except Failure Event := do
  let summaries ← rules.mapM Rule.summary
  return .provisioned client summaries

def optional (make : α → Json) : Option α → Json
  | none => .null
  | some a => make a

def summaryValue (s : RuleSummary) : Json :=
  .obj [("num", .int s.num), ("pattern", optional .str s.pattern),
    ("type", optional .str s.patternType), ("http_port", optional .int s.httpPort)]

/-- An event as a value, with the time at which it is told. -/
def toJson (time : String) : Event → Json
  | .rulesLoaded source count =>
    .obj [("event", .str "rules_loaded"), ("ts", .str time), ("source", .str source), ("count", .int count)]
  | .ruleRejected stage error =>
    .obj [("event", .str "rule_rejected"), ("ts", .str time), ("stage", .str stage),
      ("kind", .str error.kind), ("rule", optional .int error.ruleNum), ("reason", .str error.message)]
  | .portAllocated ruleNum port =>
    .obj [("event", .str "port_allocated"), ("ts", .str time), ("rule", .int ruleNum), ("port", .int port)]
  | .provisioned client rules =>
    .obj [("event", .str "provisioned"), ("ts", .str time), ("client", optional .str client),
      ("rules", .arr (rules.map summaryValue))]
  | .credentialsProjected count socksPort =>
    .obj [("event", .str "credentials_projected"), ("ts", .str time), ("count", .int count),
      ("socks_port", .int socksPort)]
  | .message text => .obj [("event", .str "message"), ("ts", .str time), ("msg", .str text)]
  | .remark members => .obj members

def line (time : String) (e : Event) : String := (e.toJson time).compact

end AccessGate.Event
