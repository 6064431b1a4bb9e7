import AccessGate.Error.Rule
import AccessGate.Port
import AccessGate.Url.Parts

/-! # Patterns

What the pattern of a rule says: how it is to be compared, and where a credential for it leads. -/
namespace AccessGate

/-- Reads a pattern type; blanks around its name do not count. -/
def PatternTypeField.read : PatternTypeField → Except RuleFault PatternType
  | .known t => .ok t
  | .written s =>
    match PatternType.ofName? (Text.trim s) with
    | some t => .ok t
    | none => .error (.unsupportedPatternType s)

/-- The characters before the last `mark`, and those after it. -/
def splitLast? (mark : Char) (cs : List Char) : Option (List Char × List Char) :=
  match cs.reverse.dropWhile (· ≠ mark) with
  | [] => none
  | _ :: rest => some (rest.reverse, Url.afterLast mark cs)

def isBracket (c : Char) : Bool := c = '[' || c = ']'

/-- The characters left when the square brackets at both ends are gone. -/
def stripBrackets (cs : List Char) : List Char :=
  ((cs.dropWhile isBracket).reverse.dropWhile isBracket).reverse

/-- The target of `socket://host:port`. The port stands behind the last colon, so that a host may hold
colons, and a host may stand in brackets. -/
def socketTarget? (cs : List Char) : Option Endpoint := do
  let rest ← Scheme.socket.text.toList.isPrefixOf? cs
  let (host, port) ← splitLast? ':' rest
  let n ← (Text.readIntegerChars port).toOption
  if host.isEmpty || !isPort n then none
  else some ⟨String.ofList (stripBrackets host), n⟩

def socketEndpoint (pattern : String) : Except RuleFault Endpoint :=
  match socketTarget? pattern.toList with
  | some e => .ok e
  | none => .error (.invalidSocketPattern pattern)

def urlParts (scheme : Scheme) (pattern : String) : Except Url.Fault Url.Parts :=
  Url.split (pattern.toList.drop scheme.text.length)

def defaultHttpsPort : Nat := 443

def Rule.httpsParts (r : Rule) : Except Url.Fault Url.Parts :=
  match r.pattern, r.scheme? with
  | some pattern, some .https => urlParts .https (Text.trim pattern)
  | _, _ => .error .notHttps

/-- The host of a rule whose pattern starts with `https://`; empty if the pattern gives none. -/
def Rule.httpsHost (r : Rule) : Except Url.Fault String :=
  r.httpsParts.map fun parts => parts.location.hostName

/-- The port of a rule whose pattern starts with `https://`. Port zero counts as none. -/
def Rule.httpsPort (r : Rule) : Except Url.Fault Nat := do
  let parts ← r.httpsParts
  match ← parts.location.portNumber? with
  | none | some 0 => return defaultHttpsPort
  | some n => return n

end AccessGate
