import AccessGate.Json.Basic
import AccessGate.Number.Shortest
import AccessGate.Text.Quoted

/-! # Values in messages

Messages show a value that came with a record. Strings inside it are quoted, its parts are set off by
a comma and a blank, and truth values and nothing are spelled as words with a capital. -/
namespace AccessGate.Json

/-- A number with a fraction or an exponent. -/
def displayFloat : Binary64 → List Char
  | .finite negative m e => Binary64.finiteChars negative m e
  | .infinite false => "inf".toList
  | .infinite true => "-inf".toList
  | .nan => "nan".toList

mutual

/-- A value as a message shows it, with strings quoted. -/
def displayChars : Json → List Char
  | .null => "None".toList
  | .bool true => "True".toList
  | .bool false => "False".toList
  | .int n => Text.decimalChars n
  | .float x => displayFloat x
  | .str s => Text.quotedChars s.toList
  | .arr items => '[' :: displayItems items
  | .obj members => '\x7b' :: displayMembers members

/-- The items of an array and its closing bracket. -/
def displayItems : List Json → List Char
  | [] => [']']
  | [item] => displayChars item ++ [']']
  | item :: rest => displayChars item ++ ',' :: ' ' :: displayItems rest

/-- The members of an object and its closing brace. -/
def displayMembers : List (String × Json) → List Char
  | [] => ['\x7d']
  | [(key, value)] => Text.quotedChars key.toList ++ ':' :: ' ' :: displayChars value ++ ['\x7d']
  | (key, value) :: rest =>
    Text.quotedChars key.toList ++ ':' :: ' ' :: displayChars value ++ ',' :: ' ' :: displayMembers rest

end

/-- A value as a message shows it, with strings quoted. -/
def display (j : Json) : String := String.ofList (displayChars j)

/-- A value as a text field takes it: a string is its own text. -/
def text : Json → String
  | .str s => s
  | other => display other

end AccessGate.Json
