import AccessGate.Number.Binary64
import AccessGate.Text.Integer

/-! # Shortest decimals

A floating-point number is written with the fewest digits that read back as the same number, and of
the rows with that many digits the one nearest to it. -/
namespace AccessGate.Binary64

/-- A decimal `digits * 10 ^ scale`. -/
structure Decimal where
  digits : Nat
  scale : Int
  deriving DecidableEq, Repr

/-- The greatest `k` with `10 ^ k ≤ n / d`, for positive `n` and `d`. -/
def floorLog10 (n d : Nat) : Int :=
  let whole := (Nat.toDigits 10 (n / d)).length
  if d ≤ n then whole - 1
  else
    let zeros := (Nat.toDigits 10 (d / n)).length
    if Nat.pow 10 (zeros - 1) * n = d then 1 - (zeros : Int) else -(zeros : Int)

/-- Whether `digits * 10 ^ scale` lies strictly between the fractions, or on one of them when the ends
belong to the interval. -/
def within (closed : Bool) (low high : Nat × Nat) (digits : Nat) (scale : Int) : Bool :=
  let (n, d) := if 0 ≤ scale then (digits * Nat.pow 10 scale.toNat, 1) else (digits, Nat.pow 10 (-scale).toNat)
  let left := low.1 * d
  let right := high.1 * d
  (left < n * low.2 && n * high.2 < right) || (closed && (left = n * low.2 || n * high.2 = right))

/-- The decimal with `count` digits that is nearest to `n / d` and within the interval; an even last
digit breaks a tie. -/
def nearestWithin? (closed : Bool) (low high : Nat × Nat) (n d : Nat) (top : Int) (count : Nat) :
    Option Decimal :=
  let scale := top - count + 1
  let (n', d') := if 0 ≤ scale then (n, d * Nat.pow 10 scale.toNat) else (n * Nat.pow 10 (-scale).toNat, d)
  let below := n' / d'
  let nearest := roundHalfEven n' d'
  let other := if nearest = below then below + 1 else below
  if within closed low high nearest scale then some ⟨nearest, scale⟩
  else if within closed low high other scale then some ⟨other, scale⟩
  else none

/-- The shortest decimal of the positive number `m * 2 ^ e`. The interval of numbers that round to it
reaches half a step up and half a step down, and a quarter where the steps below are half as wide. -/
def shortest (m : Nat) (e : Int) : Decimal :=
  let (n, d) := scaleByTwo m 1 e
  let high := scaleByTwo (2 * m + 1) 1 (e - 1)
  let low :=
    if m = Nat.pow 2 52 && minExponent < e then scaleByTwo (4 * m - 1) 1 (e - 2)
    else scaleByTwo (2 * m - 1) 1 (e - 1)
  let top := floorLog10 n d
  ((List.range 17).findSome? fun k =>
    nearestWithin? (m % 2 == 0) low high n d top (k + 1)).getD ⟨m, e⟩

/-- The digits of a decimal without zeros at the end, and the power of ten of the first one. -/
def Decimal.normal (x : Decimal) : List Char × Int :=
  let all := Nat.toDigits 10 x.digits
  ((all.reverse.dropWhile (· = '0')).reverse, x.scale + all.length - 1)

/-- The text of a row of digits whose first one counts powers `10 ^ top`. It is positional when that power
lies between the ten-thousandths and the sixteenth place before the point, with a digit on both sides of
the point; otherwise it has one digit before the point and an exponent of at least two digits. -/
def layout (digits : List Char) (top : Int) : List Char :=
  if -4 ≤ top && top < 16 then
    if top < 0 then
      '0' :: '.' :: List.replicate (-top - 1).toNat '0' ++ digits
    else
      let before := top.toNat + 1
      let whole := digits.take before
      let rest := digits.drop before
      whole ++ List.replicate (before - whole.length) '0' ++ '.' :: (if rest.isEmpty then ['0'] else rest)
  else
    let head := digits.take 1
    let rest := digits.drop 1
    let power := Nat.toDigits 10 top.natAbs
    head ++ (if rest.isEmpty then [] else '.' :: rest) ++ 'e' :: (if top < 0 then '-' else '+') ::
      List.replicate (2 - power.length) '0' ++ power

def finiteChars (negative : Bool) (m : Nat) (e : Int) : List Char :=
  let body :=
    if m = 0 then ['0', '.', '0']
    else
      let (digits, top) := (shortest m e).normal
      layout digits top
  if negative then '-' :: body else body

end AccessGate.Binary64
