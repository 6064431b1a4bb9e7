import AccessGate.Event
import AccessGate.Keyed
import AccessGate.Storage.Disk

/-! # The event log

Events are told on named channels. A channel has handlers, and each handler takes every line of its
channel: it writes the line at the end of a file, or drops it. -/
namespace AccessGate.Log

open AccessGate.Storage

def fileSuffix : List Char := ".jsonl".toList

/-- The path of the log file for a path in the settings: its suffix is dropped, and what is then the
suffix is replaced. -/
def filePath (setting : Path) : Except ValueFault Path := do
  let bare ← setting.withSuffix []
  bare.withSuffix fileSuffix

inductive Level where
  | debug
  | info
  | warning
  | error
  | critical
  deriving DecidableEq, Repr

/-- A channel tells what is at least information. -/
def Level.isTold : Level → Bool
  | .debug => false
  | _ => true

def Level.ofEvent : Event → Level
  | .ruleRejected _ _ => .warning
  | _ => .info

structure Note where
  time : String
  level : Level
  event : Event
  deriving Repr

/-- What becomes of a line. -/
inductive Handler where
  | discard
  | file (path : Path)
  deriving DecidableEq, Repr

def Handler.writesTo (path : Path) : Handler → Bool
  | .discard => false
  | .file other => other = path

/-- The channels with their handlers, and the disk that the files are on. -/
structure Book where
  disk : Disk
  channels : List (String × List Handler) := []
  deriving Repr

/-- The bytes that a line adds to a file. -/
def lineBytes (line : String) : List UInt8 := (line.push '\n').toUTF8.toList

namespace Book

def handlers (b : Book) (channel : String) : List Handler := (b.channels.lookup channel).getD []

def addHandler (channel : String) (h : Handler) (b : Book) : Book :=
  { b with channels := Keyed.put channel (b.handlers channel ++ [h]) b.channels }

/-- Opens a channel for the log file of a setting. A file that the channel already writes to is not
opened again; the files of handlers are known by their plain paths. -/
def openFile (channel : String) (setting : Path) (b : Book) : Except Failure Book := do
  let file ← (filePath setting).mapError Failure.value
  let path := file.absolute b.disk.home
  if (b.handlers channel).any (Handler.writesTo path) then return b
  let disk ← b.disk.openToWrite path.plain
  return { b with disk }.addHandler channel (.file path.plain)

/-- Opens a channel without a file. A channel that has no handler gets one that drops every line. -/
def openSilent (channel : String) (b : Book) : Book :=
  if (b.handlers channel).isEmpty then b.addHandler channel .discard else b

def handle (line : String) (b : Book) : Handler → Book
  | .discard => b
  | .file path => { b with disk := b.disk.append path.names (lineBytes line) }

def tell (channel time : String) (e : Event) (b : Book) : Book :=
  (b.handlers channel).foldl (handle (e.line time)) b

def enter (channel : String) (x : Note) (b : Book) : Book :=
  if x.level.isTold then b.tell channel x.time x.event else b

end Book

end AccessGate.Log
