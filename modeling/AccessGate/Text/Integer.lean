import AccessGate.Text.Blank
import AccessGate.Text.Digit

/-! # Integers in text

An integer is written with an optional sign and decimal digits of any script; single underscores may
group the digits, and blanks may stand around the whole. -/
namespace AccessGate.Text

/-- The most digits that a written integer may have. -/
def digitLimit : Nat := 4300

inductive IntegerFault where
  | malformed
  | tooLong (digits : Nat)
  deriving DecidableEq, Repr

/-- The value of a row of digits, the leading one first. -/
def digitsValue (ds : List Nat) : Nat := ds.foldl (fun n d => 10 * n + d) 0

/-- Digits and the underscores between them. -/
def isNumeral (c : Char) : Bool := c = '_' || (digitValue? c).isSome

/-- The digits of a row of numerals. The row ends with a digit, and every underscore stands between
two digits; `afterDigit` says whether a digit has just been read. -/
def groupedDigits? (afterDigit : Bool) : List Char → Option (List Nat)
  | [] => if afterDigit then some [] else none
  | c :: rest =>
    if c = '_' then if afterDigit then groupedDigits? false rest else none
    else do
      let d ← digitValue? c
      let ds ← groupedDigits? true rest
      return d :: ds

/-- The sign at the head of a text, and what follows it. -/
def splitSign : List Char → Int × List Char
  | '-' :: rest => (-1, rest)
  | '+' :: rest => (1, rest)
  | cs => (1, cs)

/-- Reads an integer. A long row of digits is refused before what follows it is looked at. -/
def readIntegerChars (cs : List Char) : Except IntegerFault Int :=
  let (sign, body) := splitSign (cs.dropWhile isNumberBlank)
  match groupedDigits? false (body.takeWhile isNumeral) with
  | none => .error .malformed
  | some ds =>
    if digitLimit < ds.length then .error (.tooLong ds.length)
    else if (body.dropWhile isNumeral).all isNumberBlank then .ok (sign * digitsValue ds)
    else .error .malformed

def readInteger (s : String) : Except IntegerFault Int := readIntegerChars s.toList

def integer? (s : String) : Option Int := (readInteger s).toOption

def decimalChars : Int → List Char
  | .ofNat n => Nat.toDigits 10 n
  | .negSucc n => '-' :: Nat.toDigits 10 (n + 1)

def decimal (n : Int) : String := String.ofList (decimalChars n)

end AccessGate.Text
