import DurableCalc.Session.Event
import DurableCalc.Session.World
import DurableCalc.Storage.Vault

/-!
# Rehearsals

A rehearsal is a world that is known in advance: the lines that will be offered and the calls that
will be refused. It keeps its events in order.
-/

namespace DurableCalc

/-- Whether a call is refused before it has its effect or after it. -/
inductive Moment
  | before
  | after
  deriving DecidableEq, Repr

structure Rehearsal where
  lines : List String := []
  vault : Vault := {}
  refuseCall : Nat → Option (Moment × String) := fun _ => none
  channelCalls : Nat := 0
  /-- The events, the newest first. -/
  newest : List Event := []

namespace Rehearsal

def events (w : Rehearsal) : List Event :=
  w.newest.reverse

def record (event : Event) (w : Rehearsal) : Rehearsal :=
  { w with newest := event :: w.newest }

def countCall (w : Rehearsal) : Rehearsal :=
  { w with channelCalls := w.channelCalls + 1 }

def takeLine (w : Rehearsal) : Except Error String × Rehearsal :=
  match w.lines with
  | [] => (.error .endOfInput, w.record .endOfInput)
  | line :: rest => (.ok line, { w with lines := rest }.record (.read line))

def readLine (w : Rehearsal) : Except Error String × Rehearsal :=
  match w.refuseCall w.channelCalls with
  | none => w.countCall.takeLine
  | some (.before, reason) => (.error (.channel (.refused reason)), w.countCall.record .readRefused)
  | some (.after, reason) =>
    (.error (.channel (.refused reason)), w.countCall.takeLine.2.record .readRefused)

def writeLine (line : String) (w : Rehearsal) : Except Error Unit × Rehearsal :=
  match w.refuseCall w.channelCalls with
  | none => (.ok (), w.countCall.record (.wrote line))
  | some (.before, reason) =>
    (.error (.channel (.refused reason)), w.countCall.record .writeRefused)
  | some (.after, reason) =>
    (.error (.channel (.refused reason)), (w.countCall.record (.wrote line)).record .writeRefused)

def load (w : Rehearsal) : Except Error Bytes × Rehearsal :=
  (w.vault.load.mapError .storage, w)

def store (blob : Bytes) (w : Rehearsal) : Except Error Unit × Rehearsal :=
  match w.vault.store blob with
  | (result, vault) =>
    (result.mapError .storage,
      { w with vault, newest := (Event.ofStore? blob result).toList ++ w.newest })

theorem lines_takeLine_lt {w after : Rehearsal} {line : String}
    (h : w.takeLine = (.ok line, after)) : after.lines.length < w.lines.length := by
  unfold takeLine at h
  split at h
  · cases h
  · rename_i hlines
    cases h
    simp [record, hlines]

theorem lines_readLine_lt {w after : Rehearsal} {line : String}
    (h : w.readLine = (.ok line, after)) : after.lines.length < w.lines.length := by
  unfold readLine at h
  split at h
  · exact lines_takeLine_lt (w := w.countCall) h
  · cases h
  · cases h

theorem lines_writeLine (line : String) (w : Rehearsal) : (w.writeLine line).2.lines = w.lines := by
  unfold writeLine
  split <;> rfl

theorem lines_store (blob : Bytes) (w : Rehearsal) : (w.store blob).2.lines = w.lines := rfl

instance : World Rehearsal where
  readLine := readLine
  writeLine := writeLine
  load := load
  store _ := store
  note _ w := w
  unread w := w.lines.length
  unread_readLine_lt := lines_readLine_lt
  unread_writeLine_le line w := Nat.le_of_eq (congrArg List.length (lines_writeLine line w))
  unread_store_le _ blob w := Nat.le_of_eq (congrArg List.length (lines_store blob w))
  unread_note_le _ _ := Nat.le_refl _

end Rehearsal

end DurableCalc
