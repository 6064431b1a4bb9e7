/-! # Fields of a record -/
namespace AccessGate

inductive Field where
  | ruleNum
  | clientId
  | allowedEntities
  | apps
  | pattern
  | patternType
  | httpProxyPort
  | socksServerPort
  | secretKey
  | name
  deriving DecidableEq, Repr

namespace Field

def all : List Field :=
  [.ruleNum, .clientId, .allowedEntities, .apps, .pattern, .patternType, .httpProxyPort,
    .socksServerPort, .secretKey, .name]

/-- The key of a field as feeds write it, which is also its name in messages. -/
def label : Field → String
  | .ruleNum => "ruleNum"
  | .clientId => "clientId"
  | .allowedEntities => "allowedEntities"
  | .apps => "apps"
  | .pattern => "pattern"
  | .patternType => "patternType"
  | .httpProxyPort => "httpProxyPort"
  | .socksServerPort => "socksServerPort"
  | .secretKey => "secretKey"
  | .name => "name"

/-- The other key of a field, with its words apart. -/
def plainKey : Field → String
  | .ruleNum => "rule_num"
  | .clientId => "client_id"
  | .allowedEntities => "allowed_entities"
  | .apps => "apps"
  | .pattern => "pattern"
  | .patternType => "pattern_type"
  | .httpProxyPort => "http_proxy_port"
  | .socksServerPort => "socks_server_port"
  | .secretKey => "secret_key"
  | .name => "name"

def ofKey? (key : String) : Option Field := all.find? fun f => key = f.label || key = f.plainKey

end AccessGate.Field
