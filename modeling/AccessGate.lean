import AccessGate.Agent.Session
import AccessGate.Main
import AccessGate.Proofs.Provision.Course
import AccessGate.Provision.Step
import AccessGate.Proofs.Provision.Servable
import AccessGate.Proofs.Authentication
import AccessGate.Proofs.Credentials
import AccessGate.Proofs.Access
import AccessGate.Proofs.Freshness
import AccessGate.Proofs.Provision.Secrecy
import AccessGate.Proofs.Secrecy
import AccessGate.Proofs.Secret
import AccessGate.Proofs.Provision.Scoping
import AccessGate.Proofs.Routing
import AccessGate.Proofs.Refusal
import AccessGate.Proofs.Isolation
import AccessGate.Proofs.Provision.Issue
import AccessGate.Proofs.Provision.Failure
import AccessGate.Proofs.Trace
import AccessGate.Proofs.LocalPorts
import AccessGate.Proofs.Misrouting
import AccessGate.Proofs.Endpoints
import AccessGate.Proofs.Text.Utf8
import AccessGate.Proofs.Text.Decimal
import AccessGate.Proofs.Text.Enclosed
import AccessGate.Proofs.Json.Strings
import AccessGate.Proofs.Json.RoundTrip
import AccessGate.Proofs.Feed.RoundTrip
import AccessGate.Proofs.Json.Overlong
import AccessGate.Proofs.Feed.Reading
import AccessGate.Proofs.Provision.Verdict
import AccessGate.Proofs.Independence
import AccessGate.Proofs.Log.Files
import AccessGate.Proofs.Log.Lines
import AccessGate.Proofs.Log.OneLine
import AccessGate.Proofs.Provision.Logging
import AccessGate.Proofs.Rejections
import AccessGate.Proofs.Conditions
import AccessGate.Proofs.Rule.Pattern
import AccessGate.Proofs.Rule.Validity
import AccessGate.Proofs.Rule.Set
import AccessGate.Proofs.Rule.HostPort
import AccessGate.Proofs.Rule.Https
import AccessGate.Proofs.Url.Grammar
import AccessGate.Proofs.Rule.StatedPort
import AccessGate.Proofs.Rule.Spelling
import AccessGate.Proofs.Provision.Draws
import AccessGate.Proofs.Provision.Health
import AccessGate.Proofs.Text.Numeral
import AccessGate.Proofs.Provision.Renumber
import AccessGate.Proofs.Rule.Socket
import AccessGate.Proofs.Rule.Wording
import AccessGate.Proofs.Provision.WrittenTypes
import AccessGate.Proofs.Padding
import AccessGate.Proofs.Provision.Rescoping
import AccessGate.Proofs.Log.Reopening
import AccessGate.Proofs.Log.Naming
