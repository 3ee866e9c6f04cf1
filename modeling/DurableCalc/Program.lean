import DurableCalc.CommandLine.Basic
import DurableCalc.Log.Filter
import DurableCalc.Session.Basic
import DurableCalc.Session.Desk
import DurableCalc.Session.Status

/-!
# The program

One start of the program from its arguments to its exit code: the command line and the configuration
are read, the slot is opened, and the action is carried out on it. Arguments that start nothing end
the process with their own exit code, every other error with one.
-/

namespace DurableCalc

structure Start where
  args : List String := []
  setting : Option String := none
  input : Bytes := []
  /-- The id of the run, which only the filter of the log can tell from another. -/
  runId : String := "3f2b8c1e-9d47-4a60-b5f3-7e1c0d9a8642"
  fs : FileSystem

structure Outcome where
  exitCode : Nat := 0
  output : Bytes := []
  error : Option Error := none
  log : List Log.Entry := []
  fs : FileSystem

namespace Program

def resolvedEntry (config : Config) : Log.Entry :=
  { level := .debug
    part := .program
    message := "configuration resolved"
    fields := [("storage", .text config.storage.name), ("path", .text config.statePath)] }

def startingEntry : Log.Entry :=
  { level := .info, part := .program, message := "stateful-calc session starting" }

def discardedEntry (config : Config) : Log.Entry :=
  { level := .info
    part := .program
    message := "saved state discarded"
    fields := [("path", .text config.statePath)] }

def discardM {m : Type → Type} {ω : Type} [Monad m] [Calls m ω] (config : Config) (w : ω) :
    m (Except Error Unit × ω) := do
  match ← Status.resetM w with
  | (.error error, w) => return (.error error, w)
  | (.ok (), w) => return (.ok (), ← Calls.note (discardedEntry config) w)

def perform (a : Action) (config : Config) (d : Desk) : Except Error Unit × Desk :=
  match a with
  | .run => Session.runToEnd (.standard config.maxCount) (d.note startingEntry)
  | .status =>
    match Status.tell d d.terminal.sink with
    | (result, sink, d) => (result, { d with terminal := { d.terminal with sink } })
  | .reset => discardM (m := Id) config d

/-- The entries that a process shows of its log: those that the filter lets through, as JSON. -/
def shown (c : CommandLine) (config : Config) (runId : String) (entries : List Log.Entry) :
    List Log.Entry :=
  match c.format with
  | .text => []
  | .json => Log.select config.logFilter runId entries

def fileSystem (fs : FileSystem) : Slot → FileSystem
  | .memory _ => fs
  | .file _ fs => fs

def onSlot (c : CommandLine) (config : Config) (s : Start) (slot : Slot) : Outcome :=
  let desk : Desk :=
    { terminal := { source := { unread := s.input } }
      vault := { slot }
      newestEntries := [resolvedEntry config] }
  match perform c.action config desk with
  | (result, desk) =>
    { exitCode := if result.isOk then 0 else 1
      output := desk.terminal.sink.written
      error := match result with
        | .ok () => none
        | .error error => some error
      log := shown c config s.runId desk.log
      fs := fileSystem s.fs desk.vault.slot }

def run (s : Start) : Outcome :=
  match CommandLine.read s.args with
  | .error refusal =>
    { exitCode := refusal.exitCode
      output := Text.encode (refusal.text?.getD "")
      fs := s.fs }
  | .ok c =>
    match c.resolve (fun path => (s.fs.read path).toOption) s.setting with
    | .error error => { exitCode := 1, error := some (.config error), fs := s.fs }
    | .ok config =>
      match Slot.forAction c.action config s.fs with
      | .error error =>
        { exitCode := 1
          error := some (.config error)
          log := shown c config s.runId [resolvedEntry config]
          fs := s.fs }
      | .ok slot => onSlot c config s slot

end Program

end DurableCalc
