import AccessGate.Error.Failure
import AccessGate.Rule.Pattern
import AccessGate.Rule.Validity

/-! # Credentials

A credential is the secret key of a rule together with the one endpoint that the key opens. A socket
rule leads straight to its target. A rule with a local port leads there, where the proxy checks each
URL by itself. A rule for `https://` without a local port leads to the host it names. -/
namespace AccessGate

abbrev Credential := String × Endpoint

def loopbackAddress : String := "127.0.0.1"

/-- A fault of the URL of a rule, found when a credential is projected. -/
def Failure.url (f : Url.Fault) : Failure := .value (.url f)

/-- Where the credential of a rule leads. -/
def Rule.target (loopback : String) (r : Rule) : Except Failure Endpoint :=
  match r.scheme?, r.httpProxyPort with
  | some .socket, _ =>
    (socketEndpoint (Text.trim (r.pattern.getD ""))).mapError fun f => .rule (r.errorAt f)
  | _, some port => .ok ⟨loopback, port⟩
  | some .https, none => do
    let host ← r.httpsHost.mapError Failure.url
    let port ← r.httpsPort.mapError Failure.url
    return ⟨host, port⟩
  | _, none => .error (.rule (r.errorAt .noRoute))

/-- The credentials of the rules, where `used` holds the keys of the earlier ones. -/
def projectFrom (loopback : String) (used : List String) : List Rule → Except Failure (List Credential)
  | [] => .ok []
  | r :: rest =>
    match r.secretKey with
    | none => .error (.rule (r.errorAt .secretKeyMissing))
    | some key => do
      if key ∈ used then
        throw (.rule ⟨.ruleSet (.secretKeyInUse r.ruleNum), some r.ruleNum⟩)
      let endpoint ← r.target loopback
      let others ← projectFrom loopback (key :: used) rest
      return (key, endpoint) :: others

/-- The credentials of a set of rules, one for each rule and in their order. -/
def projectCredentials (loopback : String) (rules : List Rule) : Except Failure (List Credential) :=
  projectFrom loopback [] rules

end AccessGate
