import AccessGate.Url.Authority

/-! # Parts of a URL -/
namespace AccessGate.Url

/-- What is used of a URL: where it leads, and the path there. -/
structure Parts where
  location : Location
  path : List Char
  deriving DecidableEq, Repr

/-- The characters that a URL may be broken with; they do not count. -/
def isLineBreak (c : Char) : Bool := c = '\t' || c = '\n' || c = '\r'

def endsAuthority (c : Char) : Bool := c = '/' || c = '?' || c = '#'

def endsPath (c : Char) : Bool := c = '?' || c = '#'

/-- Takes apart a URL, given the characters behind its scheme and the two slashes. -/
def split (cs : List Char) : Except Fault Parts := do
  let cs := cs.filter (!isLineBreak ·)
  let authority := cs.takeWhile (!endsAuthority ·)
  checkBrackets authority
  checkDelimiters authority
  return ⟨.ofAuthority authority, (cs.dropWhile (!endsAuthority ·)).takeWhile (!endsPath ·)⟩

end AccessGate.Url
