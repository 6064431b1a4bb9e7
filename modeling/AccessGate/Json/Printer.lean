import AccessGate.Json.Basic
import AccessGate.Number.Shortest
import AccessGate.Text.Hex

/-! # Writing JSON

The compact form: no blanks between the parts, and printable ASCII characters only, so that a value
takes one line of text. -/
namespace AccessGate.Json

def unitEscape (n : Nat) : List Char := '\\' :: 'u' :: Text.fixedHex 4 n

/-- One character of a string. A character above U+FFFF is written as a pair of code units. -/
def stringChar (c : Char) : List Char :=
  if c = '"' then ['\\', '"']
  else if c = '\\' then ['\\', '\\']
  else if c = '\n' then ['\\', 'n']
  else if c = '\r' then ['\\', 'r']
  else if c = '\t' then ['\\', 't']
  else if c = '\x08' then ['\\', 'b']
  else if c = '\x0C' then ['\\', 'f']
  else if 0x20 ≤ c.toNat && c.toNat ≤ 0x7E then [c]
  else if c.toNat < 0x10000 then unitEscape c.toNat
  else
    let offset := c.toNat - 0x10000
    unitEscape (0xD800 + offset / 0x400) ++ unitEscape (0xDC00 + offset % 0x400)

def stringChars (s : String) : List Char := '"' :: s.toList.flatMap stringChar ++ ['"']

/-- A number with a fraction or an exponent, an infinity, or no number. -/
def floatChars : Binary64 → List Char
  | .finite negative m e => Binary64.finiteChars negative m e
  | .infinite false => "Infinity".toList
  | .infinite true => "-Infinity".toList
  | .nan => "NaN".toList

mutual

/-- The compact form of a value. -/
def compactChars : Json → List Char
  | .null => "null".toList
  | .bool true => "true".toList
  | .bool false => "false".toList
  | .int n => Text.decimalChars n
  | .float x => floatChars x
  | .str s => stringChars s
  | .arr items => '[' :: compactItems items
  | .obj members => '\x7b' :: compactMembers members

/-- The items of an array and its closing bracket. -/
def compactItems : List Json → List Char
  | [] => [']']
  | [item] => compactChars item ++ [']']
  | item :: rest => compactChars item ++ ',' :: compactItems rest

/-- The members of an object and its closing brace. -/
def compactMembers : List (String × Json) → List Char
  | [] => ['\x7d']
  | [(key, value)] => stringChars key ++ ':' :: compactChars value ++ ['\x7d']
  | (key, value) :: rest => stringChars key ++ ':' :: compactChars value ++ ',' :: compactMembers rest

end

def compact (j : Json) : String := String.ofList (compactChars j)

end AccessGate.Json
