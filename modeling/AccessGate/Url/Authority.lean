import AccessGate.Port
import AccessGate.Text.LowerCase
import AccessGate.Url.Address
import AccessGate.Url.Fault

/-! # Host and port of a URL

The authority of a URL may open with user information, which ends at the last `@`. Behind it stand the
host, in brackets if it holds colons, and a port behind a colon. -/
namespace AccessGate.Url

def before (mark : Char) (cs : List Char) : List Char := cs.takeWhile (· ≠ mark)

/-- The characters after the first `mark`; none if there is no `mark`. -/
def after (mark : Char) (cs : List Char) : List Char := (cs.dropWhile (· ≠ mark)).drop 1

/-- The characters after the last `mark`; all of them if there is no `mark`. -/
def afterLast (mark : Char) (cs : List Char) : List Char := (before mark cs.reverse).reverse

/-- A host and a port as they are written; a part that is missing is empty. -/
structure Location where
  host : List Char
  port : List Char
  deriving DecidableEq, Repr

/-- The location in an authority. In brackets the host ends at the first closing one. -/
def Location.ofAuthority (authority : List Char) : Location :=
  let site := afterLast '@' authority
  if site.contains '[' then
    let inner := after '[' site
    ⟨before ']' inner, after ':' (after ']' inner)⟩
  else ⟨before ':' site, after ':' site⟩

/-- Checks a host that brackets were found around: it must be an address with groups, or one of a later
version of the format. -/
def checkBracketedHost (host : List Char) : Except Fault Unit :=
  if host.head? = some 'v' then
    if isFutureAddress host then .ok () else .error .futureAddress
  else if isIPv4 host then .error .bracketedIPv4
  else if isIPv6 host then .ok ()
  else .error (.notAnAddress (String.ofList host))

/-- Checks the brackets of an authority: they come in both kinds or not at all, and nothing but a port
stands beside them. -/
def checkBrackets (authority : List Char) : Except Fault Unit :=
  if authority.contains '[' != authority.contains ']' then .error .brackets
  else if authority.contains '[' then
    let site := afterLast '@' authority
    if site.contains '[' then
      let inner := after '[' site
      let behind := after ']' inner
      if !(before '[' site).isEmpty || (!behind.isEmpty && behind.head? != some ':') then
        .error .brackets
      else checkBracketedHost (before ']' inner)
    else checkBracketedHost (before ':' site)
  else .ok ()

/-- The characters that turn into one of the delimiters `/ ? # @ :`, or into a text with one of them,
when compatibility forms are replaced. -/
def disguisedDelimiters : List Nat :=
  [0x2047, 0x2048, 0x2049, 0x2100, 0x2101, 0x2105, 0x2106, 0x2A74, 0xFE13, 0xFE16, 0xFE55, 0xFE56,
    0xFE5F, 0xFE6B, 0xFF03, 0xFF0F, 0xFF1A, 0xFF1F, 0xFF20]

def checkDelimiters (authority : List Char) : Except Fault Unit :=
  if authority.any fun c => disguisedDelimiters.contains c.toNat then
    .error (.disguisedDelimiter (String.ofList authority))
  else .ok ()

/-- The number of the port; none if no port is written. -/
def Location.portNumber? (l : Location) : Except Fault (Option Nat) :=
  if l.port.isEmpty then .ok none
  else if !l.port.all Text.isAsciiDigit then .error (.portNotNumber (String.ofList l.port))
  else if Text.digitLimit < l.port.length then .error (.portTooLong l.port.length)
  else
    let n := Text.digitsValue (l.port.map fun c => c.toNat - 0x30)
    if n ≤ maxPort then .ok (some n) else .error .portOutOfRange

/-- The host in lower case, but for a zone behind a percent sign. -/
def Location.hostName (l : Location) : String :=
  String.ofList (Text.lowerChars (before '%' l.host) ++ l.host.dropWhile (· ≠ '%'))

end AccessGate.Url
