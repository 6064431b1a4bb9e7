import AccessGate.Error.Failure
import AccessGate.Keyed
import AccessGate.Text.Blank
import AccessGate.Text.Lines

/-! # Environment files

A file of settings holds a binding on each line: a key, an equals sign and a value. The key may follow
the word `export`; the value may be quoted, and then may run over several lines. A line that is not
formed like this is passed over. -/
namespace AccessGate.EnvFile

def isLineEnd (c : Char) : Bool := c = '\n' || c = '\r'

def isInlineBlank (c : Char) : Bool := Text.isBlank c && !isLineEnd c

def skipInline (cs : List Char) : List Char := cs.dropWhile isInlineBlank

/-- What follows the word `export`, if blanks come after it. -/
def skipExport (cs : List Char) : List Char :=
  match "export".toList.isPrefixOf? cs with
  | some rest => if rest.head?.any isInlineBlank then skipInline rest else cs
  | none => cs

def isKeyChar (c : Char) : Bool := c ≠ '=' && c ≠ '#' && !Text.isBlank c

/-- A key at the head of a line, if the line is formed like a binding. A comment has none. -/
def readKey (cs : List Char) : Option (Option (List Char) × List Char) :=
  match cs with
  | '#' :: _ => some (none, cs)
  | '\x27' :: rest =>
    let key := rest.takeWhile (· ≠ '\x27')
    match rest.dropWhile (· ≠ '\x27') with
    | [] => none
    | _ :: after => if key.isEmpty then none else some (some key, after)
  | _ =>
    let key := cs.takeWhile isKeyChar
    if key.isEmpty then none else some (some key, cs.dropWhile isKeyChar)

/-- The characters up to a closing quote, and those after it. A quote behind a backslash closes only if
no later quote does. -/
def upToQuote (quote : Char) : List Char → Option (List Char × List Char)
  | [] => none
  | [c] => if c = quote then some ([], []) else none
  | c :: d :: after =>
    if c = quote then some ([], d :: after)
    else if c = '\\' && d = quote then
      match upToQuote quote after with
      | some (value, rest) => some (c :: d :: value, rest)
      | none => some ([c], after)
    else (upToQuote quote (d :: after)).map fun (value, rest) => (c :: value, rest)

def singleEscape? : Char → Option Char
  | '\\' => some '\\'
  | '\x27' => some '\x27'
  | _ => none

def doubleEscape? : Char → Option Char
  | '\\' => some '\\'
  | '\x27' => some '\x27'
  | '"' => some '"'
  | 'a' => some '\x07'
  | 'b' => some '\x08'
  | 'f' => some '\x0C'
  | 'n' => some '\n'
  | 'r' => some '\r'
  | 't' => some '\t'
  | 'v' => some '\x0B'
  | _ => none

/-- Replaces escapes; a backslash before any other character stays. -/
def unescape (escape? : Char → Option Char) : List Char → List Char
  | [] => []
  | ['\\'] => ['\\']
  | '\\' :: c :: rest =>
    match escape? c with
    | some e => e :: unescape escape? rest
    | none => '\\' :: unescape escape? (c :: rest)
  | c :: rest => c :: unescape escape? rest

/-- The part of a value without quotes before a comment, which starts with blanks and a number sign. -/
def beforeComment : List Char → List Char
  | [] => []
  | c :: rest =>
    if Text.isBlank c && (rest.dropWhile Text.isBlank).head? = some '#' then []
    else c :: beforeComment rest

/-- A value without quotes: the rest of the line without a comment and without blanks at its end. -/
def plainValue (line : List Char) : List Char :=
  ((beforeComment line).reverse.dropWhile Text.isBlank).reverse

/-- A value at the head of `cs`, if a quote that opens it is closed. -/
def readValue (cs : List Char) : Option (List Char × List Char) :=
  match cs with
  | '\x27' :: rest => (upToQuote '\x27' rest).map fun (v, after) => (unescape singleEscape? v, after)
  | '"' :: rest => (upToQuote '"' rest).map fun (v, after) => (unescape doubleEscape? v, after)
  | _ => some (plainValue (cs.takeWhile (!isLineEnd ·)), cs.dropWhile (!isLineEnd ·))

/-- What follows a comment, if one comes after the blanks. -/
def skipComment (cs : List Char) : List Char :=
  match skipInline cs with
  | '#' :: rest => rest.dropWhile (!isLineEnd ·)
  | _ => cs

/-- What follows the end of a line, if nothing but blanks comes before it. -/
def endOfLine? (cs : List Char) : Option (List Char) :=
  match skipInline cs with
  | [] => some []
  | '\r' :: '\n' :: rest => some rest
  | c :: rest => if isLineEnd c then some rest else none

/-- A key and its value; a key without an equals sign has none. -/
structure Binding where
  key : List Char
  value : Option (List Char)
  deriving DecidableEq, Repr

def skipLine (cs : List Char) : List Char := (cs.dropWhile (!isLineEnd ·)).drop 1

/-- The binding at the head of `cs`, if there is one, and what follows its line. Reading goes on behind
the line on which a binding turned out not to be formed like one. -/
def readBinding (cs : List Char) : Option Binding × List Char :=
  let cs := skipExport cs
  match readKey cs with
  | none => (none, skipLine cs)
  | some (key, rest) =>
    let rest := skipInline rest
    let (stop, value) := match rest with
      | '=' :: rest => (skipInline rest, (readValue (skipInline rest)).map fun (v, after) => (some v, after))
      | _ => (rest, some (none, rest))
    match value with
    | none => (none, skipLine stop)
    | some (value, rest) =>
      match endOfLine? (skipComment rest) with
      | none => (none, skipLine rest)
      | some rest => (key.map (⟨·, value⟩), rest)

/-- The bindings of a file. The first argument bounds the number of lines that are followed. -/
def bindings : Nat → List Char → List Binding
  | 0, _ => []
  | fuel + 1, cs =>
    match cs.dropWhile Text.isBlank with
    | [] => []
    | start =>
      match readBinding start with
      | (some b, rest) => b :: bindings fuel rest
      | (none, rest) => bindings fuel rest

/-- A piece of a value: characters as they are, or a reference to a variable. -/
inductive Piece where
  | literal (c : Char)
  | variable (name : List Char) (default : List Char)
  deriving DecidableEq, Repr

/-- A reference behind its opening brace: a name, which may be followed by `:-` and a default. -/
def readReference (cs : List Char) : Option (Piece × List Char) :=
  let isNameChar := fun c => c ≠ '\x7d' && c ≠ ':'
  let name := cs.takeWhile isNameChar
  match cs.dropWhile isNameChar with
  | '\x7d' :: rest => some (.variable name [], rest)
  | ':' :: '-' :: rest =>
    match rest.dropWhile (· ≠ '\x7d') with
    | [] => none
    | _ :: after => some (.variable name (rest.takeWhile (· ≠ '\x7d')), after)
  | _ => none

/-- The pieces of a value. The first argument bounds their number. -/
def pieces : Nat → List Char → List Piece
  | 0, _ => []
  | _, [] => []
  | fuel + 1, '$' :: '\x7b' :: rest =>
    match readReference rest with
    | some (p, after) => p :: pieces fuel after
    | none => .literal '$' :: pieces fuel ('\x7b' :: rest)
  | fuel + 1, c :: rest => .literal c :: pieces fuel rest

/-- Settings by name. A name may be known without having a value. -/
abbrev Settings := List (String × Option String)

/-- The text of a piece: the value of the variable in the file so far, else in the environment, else
the default. A variable that is known without a value is empty. -/
def Piece.expand (file : Settings) (environment : List (String × String)) : Piece → List Char
  | .literal c => [c]
  | .variable name default =>
    let name := String.ofList name
    match file.lookup name with
    | some value => (value.getD "").toList
    | none =>
      match environment.lookup name with
      | some value => value.toList
      | none => default

def expand (file : Settings) (environment : List (String × String)) (value : List Char) : String :=
  String.ofList ((pieces value.length value).flatMap (Piece.expand file environment))

/-- The settings of the bindings, each seen by the later ones. -/
def settingsOf (environment : List (String × String)) (bindings : List Binding) : Settings :=
  bindings.foldl
    (fun file b => Keyed.put (String.ofList b.key) (b.value.map (expand file environment)) file) []

def read (environment : List (String × String)) (text : String) : Settings :=
  let cs := Text.unifyLineEnds text.toList
  settingsOf environment (bindings (cs.length + 1) cs)

def checkVariable (name value : String) : Except ValueFault Unit :=
  if name.toList.contains '\x00' || value.toList.contains '\x00' then .error .zeroCharacter
  else if name.toList.contains '=' then .error .variableName
  else .ok ()

/-- The environment with the settings of a file in it. Settings without a value change nothing. -/
def override (environment : List (String × String)) :
    Settings → Except ValueFault (List (String × String))
  | [] => .ok environment
  | (_, none) :: rest => override environment rest
  | (name, some value) :: rest => do
    checkVariable name value
    override (Keyed.put name value environment) rest

end AccessGate.EnvFile
