import AccessGate.Rule.Basic
import AccessGate.Text.Integer

/-! # System rules

Every client is served a page that tells of its health, besides the rules of the feed. -/
namespace AccessGate.Provision

/-- Who may see the health page besides the administrator: nobody, a list in one text with commas, or a
list. -/
inductive GadgetUsers where
  | none
  | joined (text : String)
  | listed (users : List String)
  deriving DecidableEq, Repr

def GadgetUsers.toList : GadgetUsers → List String
  | .none => []
  | .joined text => (text.toList.splitOn ',').map String.ofList
  | .listed users => users

/-- The path of the health page behind the client id. -/
def healthzPath : String := "__SDCINTERNAL__/healthz"

def healthzPattern (clientId : Option String) (port : Int) : String :=
  let owner := clientId.getD "None"
  s!"{Scheme.http.text}localhost:{Text.decimal port}/{owner}/{healthzPath}"

/-- The rule for the health page of a client. Blank users are left out, and the administrator comes
last. -/
def healthzRule (clientId : Option String) (port : Int) (user domain : String) (users : GadgetUsers) : Rule :=
  { ruleNum := maxRuleNum
    clientId
    allowedEntities := (users.toList.map Text.trim).filter (!·.isEmpty) ++ [s!"{user}@{domain}"]
    apps := [⟨some ".*", some ".*"⟩]
    pattern := some (healthzPattern clientId port)
    patternType := some (.known .urlExact) }

/-- The rules that are always served, numbered down from the greatest number. -/
def systemRules (clientId : Option String) (port : Int) (user domain : String) (users : GadgetUsers) :
    List Rule :=
  [healthzRule clientId port user domain users]

end AccessGate.Provision
