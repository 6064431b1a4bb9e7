import AccessGate.Error.Basic
import AccessGate.Rule.Pattern

/-! # Valid rules

A rule is checked at two levels: what an author writes, and on top of it what is filled in before the
rule is served. The checks of a rule stop at the first fault, in the order of its fields. -/
namespace AccessGate.Rule

/-- A client id is there, is not blank, and has no blank inside. -/
def checkClientId : Option String → Except RuleFault Unit
  | none => .error .clientIdMissing
  | some clientId =>
    if (Text.trimChars clientId.toList).isEmpty then .error .clientIdMissing
    else if Text.hasInnerBlank clientId then .error (.clientIdBlank clientId)
    else .ok ()

/-- An entity has no blank inside, and names a user at a domain. -/
def checkEntity (entity : String) : Except RuleFault Unit :=
  if Text.hasInnerBlank entity then .error (.entityBlank entity)
  else if entity.toList.contains '@' then .ok ()
  else .error (.entityNotAddress entity)

def checkEntities (entities : List String) : Except RuleFault Unit :=
  if entities.isEmpty then .error .entitiesMissing else entities.forM checkEntity

/-- An app has both parts, and no blank inside either. -/
def checkApp : AppTag → Except RuleFault Unit
  | ⟨some container, some appId⟩ =>
    if Text.hasInnerBlank container || Text.hasInnerBlank appId then .error (.appBlank container appId)
    else .ok ()
  | _ => .error .appIncomplete

def checkApps (apps : List AppTag) : Except RuleFault Unit :=
  if apps.isEmpty then .error .appsMissing else apps.forM checkApp

/-- A pattern is there, has no blank inside, and starts with a known scheme. The result is the trimmed
pattern and its scheme. -/
def readPattern : Option String → Except RuleFault (String × Scheme)
  | none => .error .patternMissing
  | some pattern =>
    let trimmed := Text.trim pattern
    if Text.hasInnerBlank trimmed then .error (.patternBlank trimmed)
    else match schemeOf? pattern with
      | none => .error (.unknownScheme trimmed)
      | some scheme => .ok (trimmed, scheme)

/-- A URL that stands for its host and port: it can be taken apart, its port can be read, it has a host,
and its path has at most one character. -/
def checkHostPort (scheme : Scheme) (pattern : String) : Except RuleFault Unit :=
  match urlParts scheme pattern with
  | .error fault => .error (.invalidUrl fault)
  | .ok parts =>
    match parts.location.portNumber? with
    | .error fault => .error (.invalidUrl fault)
    | .ok _ =>
      if parts.location.host.isEmpty then .error (.hostMissing pattern)
      else if 1 < parts.path.length then .error (.pathNotAllowed pattern)
      else .ok ()

/-- The pattern type fits the scheme. Any pattern passes as an expression; it is matched elsewhere. -/
def checkPatternType (pattern : String) : PatternType → Scheme → Except RuleFault Unit
  | .urlExact, .http => .ok ()
  | .urlExact, _ => .error .exactNotHttp
  | .hostPort, .socket => .ok ()
  | .hostPort, scheme => checkHostPort scheme pattern
  | .regex, _ => .ok ()

def readPatternType (pattern : String) : Option PatternTypeField → Except RuleFault PatternType
  | none => .error (.patternTypeMissing pattern)
  | some t => t.read

/-- Checks what an author writes. -/
def check (r : Rule) : Except RuleFault Unit := do
  if r.ruleNum ≤ 0 then throw (.ruleNumNotPositive r.pattern)
  checkClientId r.clientId
  checkEntities r.allowedEntities
  checkApps r.apps
  let (pattern, scheme) ← readPattern r.pattern
  let patternType ← readPatternType pattern r.patternType
  checkPatternType pattern patternType scheme

/-- A local port is a port; an exact URL needs one. -/
def checkHttpProxyPort (r : Rule) : Except RuleFault Unit :=
  match r.httpProxyPort with
  | some port => if isPort port then .ok () else .error (.httpProxyPortOutOfRange port)
  | none => do
    let patternType ← readPatternType (r.pattern.getD "") r.patternType
    if patternType = .urlExact then throw .httpProxyPortMissing

def checkSocksServerPort : Option Int → Except RuleFault Unit
  | none => .error .socksServerPortMissing
  | some port => if isPort port then .ok () else .error (.socksServerPortOutOfRange port)

/-- Checks what an author writes and what is filled in. -/
def checkRuntime (r : Rule) : Except RuleFault Unit := do
  r.check
  r.checkHttpProxyPort
  checkSocksServerPort r.socksServerPort
  if r.secretKey.isNone then throw .secretKeyMissing

def errorAt (r : Rule) (f : RuleFault) : RuleError := ⟨.rule f, some r.ruleNum⟩

/-- Whether a rule is fit for a feed. -/
def validate (r : Rule) : Except RuleError Unit := r.check.mapError r.errorAt

/-- Whether a rule is fit to be served. -/
def validateRuntime (r : Rule) : Except RuleError Unit := r.checkRuntime.mapError r.errorAt

end AccessGate.Rule
