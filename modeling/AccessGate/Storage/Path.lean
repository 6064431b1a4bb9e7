import AccessGate.Error.Failure

/-! # Paths

A path is a row of names under a root or under the working directory. Empty names and names of one dot
do not count; a name of two dots is kept, for where it leads is known only to the file system. -/
namespace AccessGate.Storage

/-- A path: how it starts (with no slash, one, or exactly two), and its names. -/
structure Path where
  root : List Char
  names : List (List Char)
  deriving DecidableEq, Repr

namespace Path

def ofChars (cs : List Char) : Path :=
  let slashes := (cs.takeWhile (· = '/')).length
  let root := if slashes = 0 then [] else if slashes = 2 then ['/', '/'] else ['/']
  ⟨root, (cs.splitOn '/').filter fun name => !name.isEmpty && name != ['.']⟩

def joinNames (names : List (List Char)) : List Char := ['/'].intercalate names

/-- Writes a path; the working directory itself is a dot. -/
def toChars (p : Path) : List Char :=
  if p.root.isEmpty && p.names.isEmpty then ['.'] else p.root ++ joinNames p.names

def text (p : Path) : String := String.ofList p.toChars

/-- The last dot of a name and what follows it, if the dot is neither the first character nor the last. -/
def suffix (name : List Char) : List Char :=
  let tail := (name.reverse.takeWhile (· ≠ '.')).length
  let start := name.length - tail - 1
  if 0 < start && 0 < tail then name.drop start else []

def renameSuffix (name newSuffix : List Char) : List Char :=
  name.take (name.length - (suffix name).length) ++ newSuffix

def withSuffix (newSuffix : List Char) (p : Path) : Except ValueFault Path :=
  match p.names.getLast? with
  | none => .error (.namelessPath p.text)
  | some name => .ok { p with names := p.names.dropLast ++ [renameSuffix name newSuffix] }

/-- The path from the root, given that of the working directory. -/
def absolute (p home : Path) : Path :=
  if p.root.isEmpty then ⟨home.root, home.names ++ p.names⟩ else p

/-- The names with each name of two dots taking back the one before it. -/
def plainNames (names : List (List Char)) : List (List Char) :=
  names.foldl (fun done name => if name = ['.', '.'] then done.dropLast else done ++ [name]) []

/-- The path without names of two dots. -/
def plain (p : Path) : Path := { p with names := plainNames p.names }

end AccessGate.Storage.Path
