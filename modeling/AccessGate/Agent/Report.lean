import AccessGate.Agent.Basic
import AccessGate.Log.Book

/-! # Runs

A run opens the log, starts an agent once, and reports what came of it. -/
namespace AccessGate.Agent

/-- What a run prints, and the code it exits with. -/
structure Report where
  result : Except Failure Nat
  stdout : String := ""
  stderr : String := ""

/-- The report of the outcome of a start. Errors of the gate and of the file system are printed; other
failures are left to whoever runs it. -/
def Report.ofStart (config : Config) : Except Failure Ready → Report
  | .error (.rule e) => { result := .ok 1, stderr := s!"▸ Refusing to start: {e.message}\n" }
  | .error (.file f) => { result := .ok 1, stderr := s!"▸ Cannot read rule feed: {f.message}\n" }
  | .error f => { result := .error f }
  | .ok ready =>
    let count := ready.rules.length
    let address := ready.listener.address
    let port := Text.decimal ready.listener.port
    { result := .ok 0
      stdout := s!"▸ {count} rules ready for client {config.clientId}, SOCKS on {address}:{port}\n" }

def channel : String := "connector"

/-- Opens the log, starts, and reports. The log is opened first, so that its file is there when the feed
is read; nothing is read if it cannot be opened. -/
def run (machine : Machine) (disk : Storage.Disk) (time : String) (config : Config) :
    Report × Storage.Disk :=
  match Log.Book.openFile channel (.ofChars config.logPath.toList) { disk } with
  | .error f => ({ result := .error f }, disk)
  | .ok book =>
    let outcome := start machine book.disk config {}
    (.ofStart config outcome.result,
      (outcome.events.foldl (fun b e => b.enter channel ⟨time, .ofEvent e, e⟩) book).disk)

end AccessGate.Agent
