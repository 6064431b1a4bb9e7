import AccessGate.Agent.Report
import AccessGate.Provision.Probe
import AccessGate.Secret
import Std.Async.DNS
import Std.Async.TCP
import Std.Internal.UV.System
import Std.Time.DateTime
import Std.Time.Format

/-! # The command line

Gathers what a run needs of the machine, runs the agent, and carries out what the run comes to: the
lines of the log, the two outputs and the exit code. Everything that is decided is decided there. -/
namespace AccessGate.Main

open AccessGate.Storage

/-- The file in the working directory whose settings take precedence over the environment. -/
def settingsFile : String := ".env"

/-- The code for a run that is stopped by a failure of no kind that is reported. -/
def failureCode : UInt32 := 1

/-- The number and the words of a fault of the machine. -/
def details : IO.Error → UInt32 × String
  | .alreadyExists _ code words | .noSuchThing _ code words | .invalidArgument _ code words
  | .permissionDenied _ code words | .resourceExhausted _ code words | .inappropriateType _ code words
  | .interrupted _ code words | .noFileOrDirectory _ code words | .otherError code words
  | .resourceBusy code words | .resourceVanished code words | .unsupportedOperation code words
  | .hardwareFault code words | .unsatisfiedConstraints code words | .illegalOperation code words
  | .protocolError code words | .timeExpired code words => (code, words)
  | .unexpectedEof => (0, "unexpected end of file")
  | .userError words => (0, words)

def magnitude (code : UInt32) : Nat := (Int.bmod code.toNat UInt32.size).natAbs

def fileCause (e : IO.Error) : FileCause :=
  let (code, words) := details e
  match magnitude code with
  | 2 => .missing
  | 20 => .behindFile
  | 21 => .directory
  | 36 => .nameTooLong
  | other => .other other words.capitalize

def attempt (path : String) (action : IO α) : IO (Except Failure α) := do
  try return .ok (← action)
  catch e => return .error (.file ⟨fileCause e, path⟩)

def readBytes (path : String) : IO (Except Failure (List UInt8)) :=
  attempt path do return (← IO.FS.readBinFile path).toList

/-- Adds lines to the end of the file at a path, which is made if it is missing. -/
def appendLines (path : String) (lines : List String) : IO Unit :=
  IO.FS.withFile path .append fun file => lines.forM fun line => file.putStrLn line

def environment : IO (List (String × String)) := do
  return (← Std.Internal.UV.System.osEnviron).toList

def settings : IO (Option String) := do
  try return some (← IO.FS.readFile settingsFile)
  catch
    | .noFileOrDirectory .. => return none
    | e => throw e

def lookUp (host : String) : IO (Option String) := do
  try
    let addresses ← (Std.Async.DNS.getAddrInfo host "").block
    return addresses[0]?.map fun address => address.toString
  catch _ => return none

def freePort : IO (Except String Int) := do
  let bound ←
    try
      let socket ← Std.Async.TCP.Socket.Server.mk
      socket.bind (.v4 ⟨.ofParts 127 0 0 1, 0⟩)
      pure (.ok ((← socket.getSockName).port.toNat : Int))
    catch e => pure (.error (toString e))
  let known (host : String) : Option String := if host = loopbackAddress then some host else none
  return (Provision.probePort known bound loopbackAddress).1.mapError Provision.ProbeFault.message

def freshSecret : IO String := do
  return Secret.ofBytes (← IO.getRandomBytes (USize.ofNat Secret.size)).toList

def draw (count : Nat) (one : IO α) : IO (Array α) := (Array.range count).mapM fun _ => one

/-- A supply that is enough for a number of rules. -/
def supplyFor (rules : Nat) : IO Provision.Supply := do
  let secrets ← draw (rules * Provision.keyAttempts) freshSecret
  let ports ← draw rules freePort
  return { secret := fun n => secrets[n]?.getD "", port := fun n => ports[n]?.getD (.ok 0) }

/-- Opens the log that the settings name, given the path of the working directory. The result is the path
of its file. -/
def openLog (config : Config) (home : Path) : IO (Except Failure String) := do
  match Log.filePath (.ofChars config.logPath.toList) with
  | .error fault => return .error (.value fault)
  | .ok path =>
    let target := (path.absolute home).plain.text
    return (← attempt target (appendLines target [])).map fun _ => target

/-- The number of rules that a feed makes ready at most. -/
def ruleCount (config : Config) : Except Failure (List Rule) → Nat
  | .ok rules => rules.length + (Agent.request config).system.length
  | .error _ => 0

def timestamp : IO String := do
  let now := Std.Time.DateTime.ofTimestamp (← Std.Time.Timestamp.now) .UTC
  return now.format "uuuu-MM-dd'T'HH:mm:ss'Z'"

def start (config : Config) (log : String) : IO Agent.Report := do
  let bytes ← readBytes (Agent.feedPath config).text
  let feed := Agent.readFeed config bytes
  let supply ← supplyFor (ruleCount config feed)
  let address ← lookUp config.socksBindHost
  let outcome := Agent.serve { toSupply := supply, resolve := fun _ => address } config feed {}
  let time ← timestamp
  appendLines log (outcome.events.map fun e => e.line time)
  return .ofStart config outcome.result

/-- Prints a report. The result is the exit code. -/
def conclude (report : Agent.Report) : IO UInt32 := do
  IO.print report.stdout
  IO.eprint report.stderr
  match report.result with
  | .ok code => return UInt32.ofNat code
  | .error failure =>
    IO.eprintln failure.message
    return failureCode

def run (config : Config) : IO UInt32 := do
  let home := Path.ofChars (← IO.currentDir).toString.toList
  match ← openLog config home with
  | .error failure => conclude { result := .error failure }
  | .ok log => conclude (← start config log)

end AccessGate.Main

/-- Reads the settings and runs the gate. -/
def main : IO UInt32 := do
  match AccessGate.Config.load (← AccessGate.Main.environment) (← AccessGate.Main.settings) with
  | .ok config => AccessGate.Main.run config
  | .error fault => AccessGate.Main.conclude { result := .error (.value fault) }
