import AccessGate.Credential
import AccessGate.Keyed

/-! # Authentication

A client shows a secret key as its user name, and may connect to the endpoint that the key opens and
to no other one. -/
namespace AccessGate

/-- The credentials that are in force; no key occurs twice. -/
structure Authenticator where
  credentials : List Credential
  nodup : (Keyed.keys credentials).Nodup

inductive AuthFault where
  | missingCredential
  | badCredentials
  deriving DecidableEq, Repr

def AuthFault.message : AuthFault → String
  | .missingCredential => "Missing credential"
  | .badCredentials => "Bad credentials"

namespace Authenticator

/-- An authenticator for a list of credentials. Of a repeated key the last endpoint counts. -/
def ofList (credentials : List Credential) : Authenticator :=
  ⟨Keyed.ofList credentials, Keyed.nodup_ofList credentials⟩

def size (a : Authenticator) : Nat := a.credentials.length

def sameBytes (s t : String) : Bool := s.toUTF8 == t.toUTF8

/-- The endpoint that a user name opens. Every key is compared byte by byte until one agrees. -/
def authenticate (a : Authenticator) (username : String) : Except AuthFault Endpoint :=
  if username.isEmpty then .error .missingCredential
  else match a.credentials.find? fun (key, _) => sameBytes key username with
    | some (_, endpoint) => .ok endpoint
    | none => .error .badCredentials

/-- Whether a user may connect to a host and port. -/
def permit (a : Authenticator) (username host : String) (port : Int) : Bool :=
  match a.authenticate username with
  | .ok endpoint => endpoint = ⟨host, port⟩
  | .error _ => false

end AccessGate.Authenticator
