import AccessGate.Text.Integer
import AccessGate.Text.Quoted

/-! # Faults of a URL -/
namespace AccessGate.Url

inductive Fault where
  /-- The URL has another scheme than the one asked for. -/
  | notHttps
  /-- The brackets around the host do not match, or something stands beside them. -/
  | brackets
  /-- The host in brackets names a version of the address format and is not formed like one. -/
  | futureAddress
  /-- The host in brackets is no address. -/
  | notAnAddress (host : String)
  /-- The host in brackets is an address that takes no brackets. -/
  | bracketedIPv4
  /-- The authority holds a character that stands for one of the delimiters. -/
  | disguisedDelimiter (authority : String)
  | portNotNumber (port : String)
  | portTooLong (digits : Nat)
  | portOutOfRange
  deriving DecidableEq, Repr

def tooLongMessage (digits : Nat) : String :=
  s!"Exceeds the limit ({Text.digitLimit} digits) for integer string conversion: value has {digits} " ++
    "digits; use sys.set_int_max_str_digits() to increase the limit"

def Fault.message : Fault → String
  | .notHttps => "Can only invoke on HTTPS rules"
  | .brackets => "Invalid IPv6 URL"
  | .futureAddress => "IPvFuture address is invalid"
  | .notAnAddress host => s!"{Text.quoted host} does not appear to be an IPv4 or IPv6 address"
  | .bracketedIPv4 => "An IPv4 address cannot be in brackets"
  | .disguisedDelimiter authority =>
    s!"netloc '{authority}' contains invalid characters under NFKC normalization"
  | .portNotNumber port => s!"Port could not be cast to integer value as {Text.quoted port}"
  | .portTooLong digits => tooLongMessage digits
  | .portOutOfRange => "Port out of range 0-65535"

end AccessGate.Url
