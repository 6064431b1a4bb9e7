import AccessGate.Text.CodeRange

/-! # Blank characters

Fields of a rule may be padded: surrounding blanks do not count, inner blanks are refused. -/
namespace AccessGate.Text

/-- The blank characters: tab to carriage return, the four separator controls, the next-line
control, and every space or line separator of the Unicode character database. -/
def isBlank (c : Char) : Bool :=
  covers [(0x09, 0x0D), (0x1C, 0x20), (0x85, 0x85), (0xA0, 0xA0), (0x1680, 0x1680),
    (0x2000, 0x200A), (0x2028, 0x2029), (0x202F, 0x202F), (0x205F, 0x205F), (0x3000, 0x3000)] c.toNat

def trimChars (cs : List Char) : List Char :=
  ((cs.dropWhile isBlank).reverse.dropWhile isBlank).reverse

/-- A text without the blanks at its two ends. -/
def trim (s : String) : String := String.ofList (trimChars s.toList)

/-- Whether a text still holds a blank once it is trimmed. -/
def hasInnerBlank (s : String) : Bool := (trimChars s.toList).any isBlank

@[simp] theorem toList_trim (s : String) : (trim s).toList = trimChars s.toList :=
  String.toList_ofList

/-- The blanks that may stand around a number: those of `isBlank` but for the four separator
controls. -/
def isNumberBlank (c : Char) : Bool := isBlank c && !covers [(0x1C, 0x1F)] c.toNat

end AccessGate.Text
