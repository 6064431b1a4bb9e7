import AccessGate.Keyed
import AccessGate.Storage.Path

/-! # Disks

A disk is a tree of directories and files. A place in it is the row of names that leads there from the
root. Of a disk are known the working directory, the directories above it, and the entries that are
listed; where nothing is known nothing stands. -/
namespace AccessGate.Storage

/-- A place on a disk: the names that lead there from the root. -/
abbrev Place := List (List Char)

inductive Entry where
  | file (bytes : List UInt8)
  | directory
  deriving DecidableEq, Repr

/-- A disk: the path of the working directory, which is plain and starts at the root, and the entries
that are known. -/
structure Disk where
  home : Path
  entries : List (Place × Entry) := []
  deriving Repr

namespace Disk

def nameLimit : Nat := 255

def pathLimit : Nat := 4095

def byteCount (cs : List Char) : Nat := (String.ofList cs).utf8ByteSize

def entry? (d : Disk) (place : Place) : Option Entry :=
  if place.isPrefixOf d.home.names then some .directory else d.entries.lookup place

/-- The place one name further. Only a directory leads on; a name of two dots leads back, and at the
root it leads nowhere else. -/
def step (d : Disk) (place : Place) (name : List Char) : Except FileCause Place :=
  match d.entry? place with
  | some .directory =>
    if name = ['.', '.'] then .ok place.dropLast
    else if nameLimit < byteCount name then .error .nameTooLong
    else .ok (place ++ [name])
  | some (.file _) => .error .behindFile
  | none => .error .missing

/-- The place that a path leads to. Something stands there, or nothing does in a directory. -/
def resolve (d : Disk) (p : Path) : Except FileCause Place :=
  if pathLimit < byteCount p.toChars then .error .nameTooLong
  else p.names.foldlM d.step (if p.root.isEmpty then d.home.names else [])

def put (place : Place) (e : Entry) (d : Disk) : Disk :=
  { d with entries := Keyed.put place e d.entries }

/-- Refuses a path that no disk takes: one that holds a zero character. -/
def checkPath (p : Path) : Except Failure Unit :=
  if p.toChars.contains '\x00' then .error (.value .zeroCharacter) else .ok ()

def failureAt (p : Path) (cause : FileCause) : Failure := .file ⟨cause, p.text⟩

def bytesOf (d : Disk) (p : Path) : Except FileCause (List UInt8) := do
  match d.entry? (← d.resolve p) with
  | some (.file bytes) => return bytes
  | some .directory => throw .directory
  | none => throw .missing

/-- The disk on which the file that a path leads to is there: as it was, or empty if there was none. -/
def withFile (d : Disk) (p : Path) : Except FileCause Disk := do
  let place ← d.resolve p
  match d.entry? place with
  | some (.file _) => return d
  | some .directory => throw .directory
  | none => return d.put place (.file [])

def read (d : Disk) (p : Path) : Except Failure (List UInt8) := do
  checkPath p
  (d.bytesOf p).mapError (failureAt p)

/-- Opens the file at a path to write at its end, and makes it if it is missing. -/
def openToWrite (d : Disk) (p : Path) : Except Failure Disk := do
  checkPath p
  (d.withFile p).mapError (failureAt p)

/-- Writes bytes at the end of the file at a place. -/
def append (place : Place) (bytes : List UInt8) (d : Disk) : Disk :=
  match d.entry? place with
  | some (.file before) => d.put place (.file (before ++ bytes))
  | _ => d

end AccessGate.Storage.Disk
