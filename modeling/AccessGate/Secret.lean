import AccessGate.Text.Hex

/-! # Fresh secrets

A secret is made of sixteen random bytes, written in hexadecimal digits. -/
namespace AccessGate.Secret

def size : Nat := 16

def ofBytes (bytes : List UInt8) : String :=
  String.ofList (bytes.flatMap fun b => Text.fixedHex 2 b.toNat)

/-- Whether a text is formed like a secret: lower-case hexadecimal digits, two for each byte. -/
def isFormed (s : String) : Bool :=
  s.toList.length = 2 * size &&
    s.toList.all fun c => (Text.hexValue? c).isSome && !('A' ≤ c && c ≤ 'F')

end AccessGate.Secret
