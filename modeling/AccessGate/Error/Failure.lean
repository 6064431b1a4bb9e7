import AccessGate.Error.Basic

/-! # Failures

Most failures are errors of the gate, but not all: a file may be missing, and some faults are found
too late to be told of as an error of a rule. -/
namespace AccessGate

inductive FileCause where
  | missing
  | directory
  /-- The path leads through a file as if it were a directory. -/
  | behindFile
  | nameTooLong
  /-- Another cause that the machine gives, with its number and its words. -/
  | other (code : Nat) (words : String)
  deriving DecidableEq, Repr

def FileCause.code : FileCause → Nat
  | .missing => 2
  | .directory => 21
  | .behindFile => 20
  | .nameTooLong => 36
  | .other code _ => code

def FileCause.words : FileCause → String
  | .missing => "No such file or directory"
  | .directory => "Is a directory"
  | .behindFile => "Not a directory"
  | .nameTooLong => "File name too long"
  | .other _ words => words

structure FileFault where
  cause : FileCause
  path : String
  deriving DecidableEq, Repr

def FileFault.message (f : FileFault) : String :=
  s!"[Errno {f.cause.code}] {f.cause.words}: {Text.quoted f.path}"

/-- A value that cannot be used where it stands. -/
inductive ValueFault where
  /-- A URL that cannot be taken apart when a credential is projected. -/
  | url (fault : Url.Fault)
  | longInteger (digits : Nat)
  | notInteger (text : String)
  | namelessPath (path : String)
  /-- A zero character in a path or in an environment variable. -/
  | zeroCharacter
  | variableName
  deriving DecidableEq, Repr

/-- The greatest length of a refused text in a message. -/
def shownLength : Nat := 200

def ValueFault.message : ValueFault → String
  | .url fault => fault.message
  | .longInteger digits => Url.tooLongMessage digits
  | .notInteger text =>
    let shown := String.ofList ((Text.quotedChars text.toList).take shownLength)
    s!"invalid literal for int() with base 10: {shown}"
  | .namelessPath path => s!"PosixPath({Text.quoted path}) has an empty name"
  | .zeroCharacter => "embedded null byte"
  | .variableName => "illegal environment variable name"

/-- Everything that may stop the gate. -/
inductive Failure where
  | rule (e : RuleError)
  | file (f : FileFault)
  | value (f : ValueFault)
  /-- The log has no word for the pattern type of a rule that is still a text. -/
  | unnamedPatternType
  deriving Repr

def Failure.message : Failure → String
  | .rule e => e.message
  | .file f => f.message
  | .value f => f.message
  | .unnamedPatternType => "'str' object has no attribute 'value'"

end AccessGate
