import AccessGate.Text.Digit
import AccessGate.Text.Hex

/-! # Network addresses

The written forms of addresses that a URL may hold between brackets. -/
namespace AccessGate.Url

/-- A part of a dotted address: at most three plain digits, no leading zero, and a value below 256. -/
def isOctet (cs : List Char) : Bool :=
  !cs.isEmpty && cs.length ≤ 3 && cs.all Text.isAsciiDigit && (cs = ['0'] || cs.head? != some '0') &&
    cs.foldl (fun n c => 10 * n + (c.toNat - 0x30)) 0 ≤ 255

def isIPv4 (cs : List Char) : Bool :=
  let parts := cs.splitOn '.'
  parts.length = 4 && parts.all isOctet

/-- A group of an address: one to four hexadecimal digits. -/
def isGroup (cs : List Char) : Bool :=
  !cs.isEmpty && cs.length ≤ 4 && cs.all fun c => (Text.hexValue? c).isSome

/-- The groups of an address, where a dotted tail counts as two groups. -/
def expandTail? (parts : List (List Char)) : Option (List (List Char)) :=
  match parts.getLast? with
  | none => none
  | some tail =>
    if tail.contains '.' then
      if isIPv4 tail then some (parts.dropLast ++ [['0'], ['0']]) else none
    else some parts

/-- The groups on one side of a gap; a gap at the very end has an empty part beside it. -/
def besideGap (parts : List (List Char)) : List (List Char) :=
  if parts = [[]] then [] else parts

/-- The groups before and after the first empty part that is not the first part. -/
def splitAtGap? : List (List Char) → Option (List (List Char) × List (List Char))
  | [] => none
  | first :: rest =>
    let before := rest.takeWhile (!·.isEmpty)
    match rest.dropWhile (!·.isEmpty) with
    | [] => none
    | _ :: after => if after.isEmpty then none else some (first :: before, after)

/-- Eight groups, or fewer with one gap `::` that stands for the missing ones. -/
def isGroups (parts : List (List Char)) : Bool :=
  match splitAtGap? parts with
  | none => parts.length = 8 && parts.all isGroup
  | some (before, after) =>
    let groups := besideGap before ++ besideGap after
    groups.length ≤ 7 && groups.all isGroup

/-- An address of groups, which may have a dotted tail, and a scope behind a percent sign. -/
def isIPv6 (cs : List Char) : Bool :=
  let address := cs.takeWhile (· ≠ '%')
  let scopeOk := match cs.dropWhile (· ≠ '%') with
    | [] => true
    | _ :: scope => !scope.isEmpty && !scope.contains '%'
  let parts := address.splitOn ':'
  scopeOk && 3 ≤ parts.length &&
    match expandTail? parts with
    | none => false
    | some groups => isGroups groups

/-- An address of a later version: a `v`, hexadecimal digits, a point, and at least one character. -/
def isFutureAddress : List Char → Bool
  | 'v' :: rest =>
    let isHex := fun c => (Text.hexValue? c).isSome
    !(rest.takeWhile isHex).isEmpty && match rest.dropWhile isHex with
      | '.' :: _ :: _ => true
      | _ => false
  | _ => false

end AccessGate.Url
