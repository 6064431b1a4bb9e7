import AccessGate.Text.Blank

/-! # Resource rules

A rule lets the users of some apps reach one resource through one client. The resource is given by a
pattern: the scheme of a URL, and what stands behind it. -/
namespace AccessGate

inductive Scheme where
  | http
  | https
  | socket
  deriving DecidableEq, Repr

def Scheme.text : Scheme → String
  | .http => "http://"
  | .https => "https://"
  | .socket => "socket://"

/-- The scheme at the head of a row of characters. No scheme starts another one. -/
def Scheme.ofChars? (cs : List Char) : Option Scheme :=
  if Scheme.http.text.toList.isPrefixOf cs then some .http
  else if Scheme.https.text.toList.isPrefixOf cs then some .https
  else if Scheme.socket.text.toList.isPrefixOf cs then some .socket
  else none

inductive PatternType where
  | urlExact
  | hostPort
  | regex
  deriving DecidableEq, Repr

def PatternType.name : PatternType → String
  | .urlExact => "URLEXACT"
  | .hostPort => "HOSTPORT"
  | .regex => "REGEX"

def PatternType.ofName? (name : String) : Option PatternType :=
  [PatternType.urlExact, .hostPort, .regex].find? (·.name = name)

/-- The pattern type of a rule: one that is known, or a text that is still to be read. -/
inductive PatternTypeField where
  | known (t : PatternType)
  | written (s : String)
  deriving DecidableEq, Repr

structure AppTag where
  container : Option String
  appId : Option String
  deriving DecidableEq, Repr

structure Endpoint where
  host : String
  port : Int
  deriving DecidableEq, Repr

/-- A rule. The number and the fields down to `patternType` are authored; both ports and the secret key
are filled in for one client; an old feed gives the number in `name`. -/
structure Rule where
  ruleNum : Int := 0
  clientId : Option String := none
  allowedEntities : List String := []
  apps : List AppTag := []
  pattern : Option String := none
  patternType : Option PatternTypeField := none
  httpProxyPort : Option Int := none
  socksServerPort : Option Int := none
  secretKey : Option String := none
  name : Option String := none
  deriving DecidableEq, Repr

/-- The client id of a rule that is for every client. -/
def allClients : String := "all"

/-- The greatest number of a rule, `2 ^ 31 - 1`. -/
def maxRuleNum : Int := 2147483647

/-- The scheme of a pattern, once its blanks are trimmed. -/
def schemeOf? (pattern : String) : Option Scheme := Scheme.ofChars? (Text.trimChars pattern.toList)

def Rule.scheme? (r : Rule) : Option Scheme := r.pattern.bind schemeOf?

end AccessGate
