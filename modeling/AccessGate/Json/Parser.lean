import AccessGate.Json.Basic
import AccessGate.Text.Hex
import AccessGate.Text.Integer

/-! # Reading JSON

The reader goes through the text once and stops at the first fault. Faults are found where the grammar
breaks; on the way they are counted from the end of the text, where the rest of the work lies. -/
namespace AccessGate.Json

inductive Reason where
  | byteOrderMark
  | value
  | propertyName
  | colon
  | comma
  | unterminatedString
  | controlCharacter
  | escape
  | unicodeEscape
  | extraData
  deriving DecidableEq, Repr

/-- Why a text cannot be read: its form is wrong with `left` characters to go, or one of its integers
has too many digits. -/
inductive Stop where
  | syntaxAt (reason : Reason) (left : Nat)
  | tooLong (digits : Nat)
  deriving DecidableEq, Repr

/-- The outcome of reading a piece of the text: the piece, and the characters after it. -/
abbrev Reading (α : Type) := Except Stop (α × List Char)

def isSpace (c : Char) : Bool := c = ' ' || c = '\t' || c = '\n' || c = '\r'

def skipSpace (cs : List Char) : List Char := cs.dropWhile isSpace

/-- The character that a one-letter escape stands for. -/
def escaped? : Char → Option Char
  | '"' => some '"'
  | '\\' => some '\\'
  | '/' => some '/'
  | 'b' => some '\x08'
  | 'f' => some '\x0C'
  | 'n' => some '\n'
  | 'r' => some '\r'
  | 't' => some '\t'
  | _ => none

/-- The code units of a string up to its closing quote. A numeric escape has four hexadecimal digits
and does not end the text. A string that is not closed is reported at its opening quote, behind which
stands `text`. -/
def stringUnits (text : List Char) : List Char → Reading (List Nat)
  | [] => .error (.syntaxAt .unterminatedString (text.length + 1))
  | '"' :: rest => .ok ([], rest)
  | ['\\'] => .error (.syntaxAt .unterminatedString (text.length + 1))
  | '\\' :: 'u' :: a :: b :: c :: d :: rest =>
    match Text.hexNumber? [a, b, c, d] with
    | some unit =>
      if rest.isEmpty then .error (.syntaxAt .unicodeEscape (rest.length + 5))
      else (stringUnits text rest).map fun (units, after) => (unit :: units, after)
    | none => .error (.syntaxAt .unicodeEscape (rest.length + 5))
  | '\\' :: c :: rest =>
    if c = 'u' then .error (.syntaxAt .unicodeEscape (rest.length + 1))
    else match escaped? c with
      | some e => (stringUnits text rest).map fun (units, after) => (e.toNat :: units, after)
      | none => .error (.syntaxAt .escape (rest.length + 2))
  | c :: rest =>
    if c.toNat < 0x20 then .error (.syntaxAt .controlCharacter (rest.length + 1))
    else (stringUnits text rest).map fun (units, after) => (c.toNat :: units, after)

def isHighUnit (n : Nat) : Bool := 0xD800 ≤ n && n ≤ 0xDBFF

def isLowUnit (n : Nat) : Bool := 0xDC00 ≤ n && n ≤ 0xDFFF

/-- The characters of a row of code units. A pair makes one character; a unit of a pair that stands
alone is replaced by U+FFFD. -/
def ofUnits : List Nat → List Char
  | [] => []
  | [n] => [if isHighUnit n || isLowUnit n then Char.ofNat 0xFFFD else Char.ofNat n]
  | n :: m :: rest =>
    if isHighUnit n && isLowUnit m then
      Char.ofNat (0x10000 + 0x400 * (n - 0xD800) + (m - 0xDC00)) :: ofUnits rest
    else
      (if isHighUnit n || isLowUnit n then Char.ofNat 0xFFFD else Char.ofNat n) :: ofUnits (m :: rest)

/-- A string, from behind its opening quote. -/
def string (cs : List Char) : Reading String :=
  (stringUnits cs cs).map fun (units, rest) => (String.ofList (ofUnits units), rest)

/-- The digits before the point: a lone zero, or a row that starts with another digit. -/
def wholeDigits? : List Char → Option (List Char × List Char)
  | '0' :: rest => some (['0'], rest)
  | c :: rest =>
    if Text.isAsciiDigit c then
      some (c :: rest.takeWhile Text.isAsciiDigit, rest.dropWhile Text.isAsciiDigit)
    else none
  | [] => none

/-- The digits behind a point, if a point with digits stands at the head. -/
def fractionDigits (cs : List Char) : List Char × List Char :=
  match cs with
  | '.' :: rest =>
    let digits := rest.takeWhile Text.isAsciiDigit
    if digits.isEmpty then ([], cs) else (digits, rest.dropWhile Text.isAsciiDigit)
  | _ => ([], cs)

def digitsNumber (cs : List Char) : Nat := Text.digitsValue (cs.map fun c => c.toNat - 0x30)

/-- The power of ten, if an exponent with digits stands at the head. -/
def exponent? (cs : List Char) : Option Int × List Char :=
  match cs with
  | c :: rest =>
    if c = 'e' || c = 'E' then
      let (sign, rest) := Text.splitSign rest
      let digits := rest.takeWhile Text.isAsciiDigit
      if digits.isEmpty then (none, cs)
      else (some (sign * digitsNumber digits), rest.dropWhile Text.isAsciiDigit)
    else (none, cs)
  | [] => (none, cs)

/-- A number at the head of `cs`. It is an integer unless it has a fraction or an exponent. -/
def number (cs : List Char) : Reading Json :=
  let (negative, body) := match cs with
    | '-' :: rest => (true, rest)
    | _ => (false, cs)
  match wholeDigits? body with
  | none => .error (.syntaxAt .value cs.length)
  | some (whole, rest) =>
    let (fraction, rest) := fractionDigits rest
    let (power?, rest) := exponent? rest
    if fraction.isEmpty && power?.isNone then
      if Text.digitLimit < whole.length then .error (.tooLong whole.length)
      else
        let n : Int := digitsNumber whole
        .ok (.int (if negative then -n else n), rest)
    else
      let digits := digitsNumber (whole ++ fraction)
      .ok (.float (.ofDecimal negative digits (power?.getD 0 - fraction.length)), rest)

def literals : List (String × Json) :=
  [("null", .null), ("true", .bool true), ("false", .bool false), ("NaN", .float .nan),
    ("Infinity", .float (.infinite false)), ("-Infinity", .float (.infinite true))]

def afterWord? (word cs : List Char) : Option (List Char) :=
  if word.isPrefixOf cs then some (cs.drop word.length) else none

def scalar (cs : List Char) : Reading Json :=
  match literals.findSome? fun (word, v) => (afterWord? word.toList cs).map (v, ·) with
  | some found => .ok found
  | none => number cs

mutual

/-- A value at the head of the text. The first argument bounds the nesting that is followed. -/
def valueAt : Nat → List Char → Reading Json
  | 0, cs => .error (.syntaxAt .value cs.length)
  | _ + 1, '"' :: rest => (string rest).map fun (s, after) => (.str s, after)
  | fuel + 1, '[' :: rest =>
    match skipSpace rest with
    | ']' :: after => .ok (.arr [], after)
    | inner => (itemsAt fuel inner).map fun (items, after) => (.arr items, after)
  | fuel + 1, '\x7b' :: rest =>
    match skipSpace rest with
    | '\x7d' :: after => .ok (.obj [], after)
    | inner => (pairsAt fuel inner).map fun (pairs, after) => (.obj (membersOf pairs), after)
  | _ + 1, cs => scalar cs

/-- The items of an array up to its closing bracket. -/
def itemsAt : Nat → List Char → Except Stop (List Json × List Char)
  | 0, cs => .error (.syntaxAt .value cs.length)
  | fuel + 1, cs => do
    let (item, rest) ← valueAt fuel cs
    match skipSpace rest with
    | ']' :: after => return ([item], after)
    | ',' :: more =>
      let (items, after) ← itemsAt fuel (skipSpace more)
      return (item :: items, after)
    | other => throw (.syntaxAt .comma other.length)

/-- The pairs of an object up to its closing brace. -/
def pairsAt : Nat → List Char → Except Stop (List (String × Json) × List Char)
  | fuel + 1, '"' :: rest => do
    let (key, rest) ← string rest
    match skipSpace rest with
    | ':' :: rest =>
      let (value, rest) ← valueAt fuel (skipSpace rest)
      match skipSpace rest with
      | '\x7d' :: after => return ([(key, value)], after)
      | ',' :: more =>
        let (pairs, after) ← pairsAt fuel (skipSpace more)
        return ((key, value) :: pairs, after)
      | other => throw (.syntaxAt .comma other.length)
    | other => throw (.syntaxAt .colon other.length)
  | _, cs => .error (.syntaxAt .propertyName cs.length)

end

/-- The value that a whole text writes. Nesting can go no deeper than the text is long. -/
def parseChars (cs : List Char) : Except Stop Json := do
  if cs.head? = some (Char.ofNat 0xFEFF) then throw (.syntaxAt .byteOrderMark cs.length)
  let (value, rest) ← valueAt (2 * cs.length + 2) (skipSpace cs)
  match skipSpace rest with
  | [] => return value
  | other => throw (.syntaxAt .extraData other.length)

/-- A place in a text: characters before it, and its line and column, which count from one. -/
structure Place where
  offset : Nat
  line : Nat
  column : Nat
  deriving DecidableEq, Repr

/-- The place in `cs` with `left` characters to go. -/
def placeOf (cs : List Char) (left : Nat) : Place :=
  let before := cs.take (cs.length - left)
  ⟨before.length, before.count '\n' + 1, (before.reverse.takeWhile (· ≠ '\n')).length + 1⟩

inductive Fault where
  | malformed (reason : Reason) (place : Place)
  | tooLong (digits : Nat)
  deriving DecidableEq, Repr

def Stop.fault (cs : List Char) : Stop → Fault
  | .syntaxAt reason left => .malformed reason (placeOf cs left)
  | .tooLong digits => .tooLong digits

def parse (s : String) : Except Fault Json :=
  (parseChars s.toList).mapError (Stop.fault s.toList)

def Reason.message : Reason → String
  | .byteOrderMark => "Unexpected UTF-8 BOM (decode using utf-8-sig)"
  | .value => "Expecting value"
  | .propertyName => "Expecting property name enclosed in double quotes"
  | .colon => "Expecting ':' delimiter"
  | .comma => "Expecting ',' delimiter"
  | .unterminatedString => "Unterminated string starting at"
  | .controlCharacter => "Invalid control character at"
  | .escape => "Invalid \\escape"
  | .unicodeEscape => "Invalid \\uXXXX escape"
  | .extraData => "Extra data"

def Place.describe (p : Place) (reason : Reason) : String :=
  s!"{reason.message}: line {p.line} column {p.column} (char {p.offset})"

end AccessGate.Json
