import AccessGate.Config.EnvFile
import AccessGate.Provision.System

/-! # Settings of the gate

The settings come from environment variables, and each has a default. -/
namespace AccessGate

structure Config where
  clientId : String
  user : String
  domain : String
  rulesPath : String
  socksBindHost : String
  socksServerPort : Int
  healthzPort : Int
  healthzGadgetUsers : Provision.GadgetUsers
  logPath : String
  deriving DecidableEq, Repr

namespace Config

def readPort (text : String) : Except ValueFault Int :=
  match Text.readInteger text with
  | .ok n => .ok n
  | .error .malformed => .error (.notInteger text)
  | .error (.tooLong digits) => .error (.longInteger digits)

/-- The users in a setting; an empty one counts as missing. -/
def readUsers : Option String → Provision.GadgetUsers
  | none => .none
  | some text => if text.isEmpty then .none else .joined text

def ofEnvironment (environment : List (String × String)) : Except ValueFault Config := do
  let get (name default : String) : String := (environment.lookup name).getD default
  let socksServerPort ← readPort (get "CONNECTOR_SOCKS_SERVER_PORT" "1080")
  let healthzPort ← readPort (get "CONNECTOR_HEALTHZ_PORT" "8123")
  return {
    socksServerPort, healthzPort
    clientId := get "CONNECTOR_CLIENT_ID" "default"
    user := get "CONNECTOR_USER" "admin"
    domain := get "CONNECTOR_DOMAIN" "localhost"
    rulesPath := get "CONNECTOR_RULES_PATH" "resource_rules.json"
    socksBindHost := get "CONNECTOR_SOCKS_BIND_HOST" "127.0.0.1"
    healthzGadgetUsers := readUsers (environment.lookup "CONNECTOR_HEALTHZ_GADGET_USERS")
    logPath := get "CONNECTOR_LOG_PATH" "connector.log" }

/-- The settings in an environment and the text of a file, which takes precedence. -/
def load (environment : List (String × String)) (file : Option String) : Except ValueFault Config := do
  match file with
  | none => ofEnvironment environment
  | some text => ofEnvironment (← EnvFile.override environment (EnvFile.read environment text))

end AccessGate.Config
