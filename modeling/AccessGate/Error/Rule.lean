import AccessGate.Json.Display
import AccessGate.Rule.Basic
import AccessGate.Rule.Field
import AccessGate.Url.Fault

/-! # What is wrong with one rule

The faults of a record that is turned into a rule, of an authored rule, of a rule that is ready to be
served, and of a rule that a credential is projected from. -/
namespace AccessGate

inductive RuleFault where
  /-- A field that takes a whole number holds a truth value or a fraction. -/
  | notWhole (field : Field) (raw : Json)
  /-- A field that takes a whole number holds something that writes none. -/
  | notNumber (field : Field) (raw : Json)
  /-- A field that takes a list holds neither a list nor a single item. -/
  | notList (field : Field)
  /-- An entry of the apps names no app. -/
  | malformedApp (raw : Json)
  | unsupportedPatternType (text : String)
  | invalidSocketPattern (pattern : String)
  | ruleNumNotPositive (pattern : Option String)
  | clientIdMissing
  | clientIdBlank (clientId : String)
  | entitiesMissing
  | entityBlank (entity : String)
  | entityNotAddress (entity : String)
  | appsMissing
  | appIncomplete
  | appBlank (container appId : String)
  | patternMissing
  | patternBlank (pattern : String)
  | unknownScheme (pattern : String)
  | patternTypeMissing (pattern : String)
  /-- Exact URLs are for plain http alone. -/
  | exactNotHttp
  | invalidUrl (fault : Url.Fault)
  | hostMissing (pattern : String)
  | pathNotAllowed (pattern : String)
  | httpProxyPortOutOfRange (port : Int)
  | httpProxyPortMissing
  | socksServerPortMissing
  | socksServerPortOutOfRange (port : Int)
  | secretKeyMissing
  /-- No port and no host to send a credential to. -/
  | noRoute
  deriving Repr

def RuleFault.message : RuleFault → String
  | .notWhole field raw => s!"'{field.label}' {raw.display} is not a whole number"
  | .notNumber field raw => s!"'{field.label}' {raw.display} is not a number"
  | .notList field => s!"'{field.label}' must be a list"
  | .malformedApp raw => s!"malformed 'apps' entry {raw.display}"
  | .unsupportedPatternType text => s!"'patternType' {text} not supported."
  | .invalidSocketPattern pattern => s!"Invalid socket pattern: {pattern}"
  | .ruleNumNotPositive none => "(None) must have ruleNum greater than 0."
  | .ruleNumNotPositive (some pattern) => s!"({pattern}) must have ruleNum greater than 0."
  | .clientIdMissing => "'clientId' field must be present"
  | .clientIdBlank clientId => s!"'clientId' field '{clientId}' must not contain any white space."
  | .entitiesMissing => "at least one 'allowedEntities' field must be present"
  | .entityBlank entity => s!"'allowedEntities' field '{entity}' must not contain any white space."
  | .entityNotAddress entity =>
    s!"'allowedEntities' field '{entity}' must be a valid fully qualified email address"
  | .appsMissing => "at least one 'app' field must be present"
  | .appIncomplete => "'apps' entries need both a container and an appId"
  | .appBlank container appId =>
    s!"'apps' field <{container}:{appId}> must not contain any white space."
  | .patternMissing => "'pattern' must be present."
  | .patternBlank pattern => s!"'pattern' field '{pattern}' must not contain any white space."
  | .unknownScheme pattern => s!"Invalid pattern: {pattern}"
  | .patternTypeMissing pattern => s!"'patternType' missing for {pattern}"
  | .exactNotHttp => "Pattern type: URLEXACT works only with http. Use HOSTPORT for https or socket"
  | .invalidUrl fault => s!"Invalid pattern URL: {fault.message}"
  | .hostMissing pattern => s!"Invalid pattern URL: no host in {pattern}"
  | .pathNotAllowed pattern =>
    s!"'pattern' {pattern} cannot contain any path elements when using HOSTPORT pattern type"
  | .httpProxyPortOutOfRange port => s!"HttpProxyPort {Text.decimal port} out of range."
  | .httpProxyPortMissing => s!"'httpProxyPort' required for each {Scheme.http.text} resource"
  | .socksServerPortMissing => "'socksServerPort' required for each resource"
  | .socksServerPortOutOfRange port => s!"socksServerPort {Text.decimal port} out of range."
  | .secretKeyMissing => "Rule is missing secret key"
  | .noRoute => "has no http proxy port to route to"

end AccessGate
