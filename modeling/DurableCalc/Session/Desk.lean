import DurableCalc.Session.Event
import DurableCalc.Session.World
import DurableCalc.Storage.Vault
import DurableCalc.Channel.Terminal

/-!
# Desks

A desk is a world of a terminal, a vault and a log. A slot that is a file tells the log when the
file was replaced.
-/

namespace DurableCalc

structure Desk where
  terminal : Terminal := {}
  vault : Vault := {}
  newestEntries : List Log.Entry := []
  newestEvents : List Event := []

def FileSlot.replacedEntry (path : String) (command : Option String) (blob : Bytes) : Log.Entry :=
  { level := .trace
    part := .fileSlot
    message := "state file replaced"
    fields := [("path", .text path), ("bytes", .number blob.length)]
    command }

def Slot.replacementNote? (command : Option String) (blob : Bytes) : Slot → Option Log.Entry
  | .memory _ => none
  | .file path _ => some (FileSlot.replacedEntry path command blob)

namespace Desk

def log (d : Desk) : List Log.Entry :=
  d.newestEntries.reverse

def events (d : Desk) : List Event :=
  d.newestEvents.reverse

def note (entry : Log.Entry) (d : Desk) : Desk :=
  { d with newestEntries := entry :: d.newestEntries }

def readLine (d : Desk) : Except Error String × Desk :=
  match d.terminal.readLine with
  | (result, terminal) => (result, { d with terminal })

def writeLine (line : String) (d : Desk) : Except Error Unit × Desk :=
  match d.terminal.writeLine line with
  | (result, terminal) => (result, { d with terminal })

def load (d : Desk) : Except Error Bytes × Desk :=
  (d.vault.load.mapError .storage, d)

def store (command : Option String) (blob : Bytes) (d : Desk) : Except Error Unit × Desk :=
  match d.vault.store blob with
  | (result, vault) =>
    let entries :=
      if result.isOk then (vault.slot.replacementNote? command blob).toList else []
    (result.mapError .storage,
      { d with
        vault
        newestEntries := entries ++ d.newestEntries
        newestEvents := (Event.ofStore? blob result).toList ++ d.newestEvents })

def unread (d : Desk) : Nat :=
  d.terminal.source.unread.length

theorem unread_readLine_lt {d after : Desk} {line : String} (h : d.readLine = (.ok line, after)) :
    after.unread < d.unread := by
  unfold readLine Terminal.readLine at h
  split at h
  rename_i hterminal
  split at hterminal
  rename_i hsource
  cases hterminal
  cases h
  exact Source.unread_readLine_lt hsource

theorem unread_writeLine (line : String) (d : Desk) : (d.writeLine line).2.unread = d.unread := rfl

theorem unread_store (command : Option String) (blob : Bytes) (d : Desk) :
    (d.store command blob).2.unread = d.unread := rfl

instance : World Desk where
  readLine := readLine
  writeLine := writeLine
  load := load
  store := store
  note := note
  unread := unread
  unread_readLine_lt := unread_readLine_lt
  unread_writeLine_le line d := Nat.le_of_eq (unread_writeLine line d)
  unread_store_le command blob d := Nat.le_of_eq (unread_store command blob d)
  unread_note_le _ _ := Nat.le_refl _

end Desk

end DurableCalc
