import AccessGate.Text.Hex

/-! # UTF-8

A strict decoder: every character in its shortest form, no surrogates, nothing above U+10FFFF. A
fault names the bytes that were taken in before it showed. -/
namespace AccessGate.Text.Utf8

inductive Reason where
  /-- The byte starts no character. -/
  | invalidStart
  /-- The byte after the named ones does not continue the character. -/
  | invalidContinuation
  /-- The row ends within a character. -/
  | unexpectedEnd
  deriving DecidableEq, Repr

/-- A fault in a row of bytes: its first byte, and the positions of its first and last byte. -/
structure Fault where
  byte : Nat
  first : Nat
  last : Nat
  reason : Reason
  deriving DecidableEq, Repr

/-- A character of which some bytes are still to come. -/
structure Pending where
  /-- The byte that starts the character, and its position. -/
  byte : Nat
  first : Nat
  /-- The bits read so far. -/
  value : Nat
  /-- How many bytes follow the next one. -/
  more : Nat
  /-- The range in which the next byte must lie. -/
  low : Nat
  high : Nat

/-- The character that a byte above 0x7F starts. The range of the second byte keeps out overlong forms,
surrogates and values above U+10FFFF. -/
def start? (position byte : Nat) : Option Pending :=
  if byte < 0xC2 then none
  else if byte < 0xE0 then some ⟨byte, position, byte - 0xC0, 0, 0x80, 0xBF⟩
  else if byte = 0xE0 then some ⟨byte, position, 0, 1, 0xA0, 0xBF⟩
  else if byte = 0xED then some ⟨byte, position, byte - 0xE0, 1, 0x80, 0x9F⟩
  else if byte < 0xF0 then some ⟨byte, position, byte - 0xE0, 1, 0x80, 0xBF⟩
  else if byte = 0xF0 then some ⟨byte, position, 0, 2, 0x90, 0xBF⟩
  else if byte < 0xF4 then some ⟨byte, position, byte - 0xF0, 2, 0x80, 0xBF⟩
  else if byte = 0xF4 then some ⟨byte, position, byte - 0xF0, 2, 0x80, 0x8F⟩
  else none

/-- Decodes the bytes from `position` on, where `pending` is the character in progress. -/
def decodeFrom (position : Nat) : Option Pending → List UInt8 → Except Fault (List Char)
  | none, [] => .ok []
  | some p, [] => .error ⟨p.byte, p.first, position - 1, .unexpectedEnd⟩
  | none, b :: rest =>
    if b.toNat < 0x80 then
      (decodeFrom (position + 1) none rest).map (Char.ofNat b.toNat :: ·)
    else match start? position b.toNat with
      | none => .error ⟨b.toNat, position, position, .invalidStart⟩
      | some p => decodeFrom (position + 1) (some p) rest
  | some p, b :: rest =>
    if b.toNat < p.low || p.high < b.toNat then
      .error ⟨p.byte, p.first, position - 1, .invalidContinuation⟩
    else
      let value := 64 * p.value + (b.toNat - 0x80)
      match p.more with
      | 0 => (decodeFrom (position + 1) none rest).map (Char.ofNat value :: ·)
      | more + 1 =>
        decodeFrom (position + 1) (some ⟨p.byte, p.first, value, more, 0x80, 0xBF⟩) rest

def decode (bytes : List UInt8) : Except Fault (List Char) := decodeFrom 0 none bytes

def Reason.message : Reason → String
  | .invalidStart => "invalid start byte"
  | .invalidContinuation => "invalid continuation byte"
  | .unexpectedEnd => "unexpected end of data"

def Fault.message (f : Fault) : String :=
  if f.first = f.last then
    let byte := String.ofList (fixedHex 2 f.byte)
    s!"'utf-8' codec can't decode byte 0x{byte} in position {f.first}: {f.reason.message}"
  else
    s!"'utf-8' codec can't decode bytes in position {f.first}-{f.last}: {f.reason.message}"

end AccessGate.Text.Utf8
