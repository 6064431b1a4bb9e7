/-! # Binary floating-point numbers

A feed may write numbers with a fraction or an exponent. They are held exactly, as a mantissa and a
power of two, and are rounded once, when they are read: to the nearest number with a mantissa of 53
bits and an exponent between -1074 and 971, and to an even mantissa when two are equally near. -/
namespace AccessGate

/-- A binary floating-point number: plus or minus `mantissa * 2 ^ exponent`, an infinity, or no
number at all. -/
inductive Binary64 where
  | finite (negative : Bool) (mantissa : Nat) (exponent : Int)
  | infinite (negative : Bool)
  | nan
  deriving DecidableEq, Repr

namespace Binary64

def minExponent : Int := -1074

def maxExponent : Int := 971

/-- The whole number nearest to `n / d`, the even one of two. -/
def roundHalfEven (n d : Nat) : Nat :=
  let q := n / d
  let twice := 2 * (n % d)
  if twice < d || (twice = d && q % 2 = 0) then q else q + 1

/-- The fraction `(n / d) * 2 ^ e` as a numerator and a denominator. -/
def scaleByTwo (n d : Nat) (e : Int) : Nat × Nat :=
  if 0 ≤ e then (n * Nat.pow 2 e.toNat, d) else (n, d * Nat.pow 2 (-e).toNat)

/-- The greatest `k` with `2 ^ k ≤ n / d`, for positive `n` and `d`. -/
def floorLog2 (n d : Nat) : Int :=
  let guess : Int := n.log2 - d.log2
  let (n', d') := scaleByTwo n d (-guess)
  if d' ≤ n' then guess else guess - 1

/-- The number nearest to the positive fraction `n / d`. -/
def ofFraction (negative : Bool) (n d : Nat) : Binary64 :=
  let e := max (floorLog2 n d - 52) minExponent
  let (n', d') := scaleByTwo n d (-e)
  let m := roundHalfEven n' d'
  let (m, e) := if m = Nat.pow 2 53 then (Nat.pow 2 52, e + 1) else (m, e)
  if maxExponent < e then .infinite negative else .finite negative m e

/-- The number nearest to `digits * 10 ^ scale`. Decimals with no digit within reach of the format are
settled by their size alone. -/
def ofDecimal (negative : Bool) (digits : Nat) (scale : Int) : Binary64 :=
  let size : Int := (Nat.toDigits 10 digits).length + scale
  if digits = 0 || size < -330 then .finite negative 0 minExponent
  else if 330 < size then .infinite negative
  else if 0 ≤ scale then ofFraction negative (digits * Nat.pow 10 scale.toNat) 1
  else ofFraction negative digits (Nat.pow 10 (-scale).toNat)

def toInt? : Binary64 → Option Int
  | .finite negative m e =>
    let (n, d) := scaleByTwo m 1 e
    if n % d = 0 then
      let whole : Int := n / d
      some (if negative then -whole else whole)
    else none
  | .infinite _ | .nan => none

end AccessGate.Binary64
