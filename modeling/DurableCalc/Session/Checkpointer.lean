import DurableCalc.Session.World

/-!
# Checkpointers

A checkpointer holds the snapshot of a session and replaces the slot's blob after every change of
it. A change is made in memory before it is saved; a slot that refuses does not undo it.
-/

namespace DurableCalc

/-- The snapshot in memory, whether it came from the slot, and how often the slot was replaced. The
count has no bound: a run that leaves 64 bits has replaced the slot 2 ^ 64 times. -/
structure Checkpointer where
  snapshot : Snapshot := .fresh
  resumed : Bool := false
  writes : Nat := 0
  deriving DecidableEq, Repr

namespace Checkpointer

variable {m : Type → Type} {ω : Type}

def startEntry (c : Checkpointer) : Log.Entry :=
  if c.resumed then
    { level := .info
      part := .checkpointer
      message := "resuming from saved snapshot"
      fields :=
        [("command", .text c.snapshot.kindName),
          ("pending", .text (c.snapshot.pendingInput.getD "")),
          ("rng_state", .number c.snapshot.rngState.toInt)] }
  else
    { level := .info
      part := .checkpointer
      message := "no saved snapshot, starting fresh session" }

def ofBlob (blob : Bytes) : Except DecodeError Checkpointer :=
  match Snapshot.decode blob with
  | .error error => .error error
  | .ok none => .ok {}
  | .ok (some s) => .ok { snapshot := s, resumed := true }

def resumeM [Monad m] [Calls m ω] (w : ω) : m (Except Error Checkpointer × ω) := do
  match ← Calls.load w with
  | (.error error, w) => return (.error error, w)
  | (.ok blob, w) =>
    match ofBlob blob with
    | .error error => return (.error (.snapshot (.decode error)), w)
    | .ok c => return (.ok c, ← Calls.note c.startEntry w)

def savedEntry (c : Checkpointer) (size : Nat) : Log.Entry :=
  { level := .debug
    part := .checkpointer
    message := "checkpoint written"
    fields :=
      [("seq", .number c.writes), ("bytes", .number size),
        ("command", .text c.snapshot.kindName)]
    command := c.snapshot.commandName? }

def updateM [Monad m] [Calls m ω] (change : Snapshot → Snapshot) (c : Checkpointer) (w : ω) :
    m (Except Error Unit × Checkpointer × ω) := do
  let c := { c with snapshot := change c.snapshot }
  let blob := c.snapshot.encode
  match ← Calls.store c.snapshot.commandName? blob w with
  | (.error error, w) => return (.error error, c, w)
  | (.ok (), w) =>
    let c := { c with writes := c.writes + 1 }
    return (.ok (), c, ← Calls.note (c.savedEntry blob.length) w)

def clearedEntry : Log.Entry :=
  { level := .debug, part := .checkpointer, message := "snapshot cleared" }

/-- Empties the slot and then starts over in memory. -/
def clearM [Monad m] [Calls m ω] (c : Checkpointer) (w : ω) :
    m (Except Error Unit × Checkpointer × ω) := do
  match ← Calls.store none [] w with
  | (.error error, w) => return (.error error, c, w)
  | (.ok (), w) =>
    return (.ok (), { c with snapshot := .fresh, writes := c.writes + 1 },
      ← Calls.note clearedEntry w)

section World

variable [World ω]

def resume (w : ω) : Except Error Checkpointer × ω :=
  resumeM (m := Id) w

def update (change : Snapshot → Snapshot) (c : Checkpointer) (w : ω) :
    Except Error Unit × Checkpointer × ω :=
  updateM (m := Id) change c w

def stage (p : Progress) : Checkpointer → ω → Except Error Unit × Checkpointer × ω :=
  update (Snapshot.stage p)

/-- Drops the pending line and the progress of its command in one change. -/
def complete : Checkpointer → ω → Except Error Unit × Checkpointer × ω :=
  update Snapshot.completed

def clear (c : Checkpointer) (w : ω) : Except Error Unit × Checkpointer × ω :=
  clearM (m := Id) c w

theorem resume_eq (w : ω) :
    resume w =
      match World.load w with
      | (.error error, w) => (.error error, w)
      | (.ok blob, w) =>
        match ofBlob blob with
        | .error error => (.error (.snapshot (.decode error)), w)
        | .ok c => (.ok c, World.note c.startEntry w) :=
  rfl

theorem update_eq (change : Snapshot → Snapshot) (c : Checkpointer) (w : ω) :
    c.update change w =
      let c := { c with snapshot := change c.snapshot }
      let blob := c.snapshot.encode
      match World.store c.snapshot.commandName? blob w with
      | (.error error, w) => (.error error, c, w)
      | (.ok (), w) =>
        let c := { c with writes := c.writes + 1 }
        (.ok (), c, World.note (c.savedEntry blob.length) w) :=
  rfl

theorem clear_eq (c : Checkpointer) (w : ω) :
    c.clear w =
      match World.store none [] w with
      | (.error error, w) => (.error error, c, w)
      | (.ok (), w) =>
        (.ok (), { c with snapshot := .fresh, writes := c.writes + 1 },
          World.note clearedEntry w) :=
  rfl

theorem unread_update_le (change : Snapshot → Snapshot) (c : Checkpointer) (w : ω) :
    World.unread (c.update change w).2.2 ≤ World.unread w := by
  have hstore :=
    World.unread_store_le (change c.snapshot).commandName? (change c.snapshot).encode w
  rw [update_eq]
  dsimp only
  split
  · rename_i h
    simpa [h] using hstore
  · rename_i h
    rw [h] at hstore
    exact Nat.le_trans (World.unread_note_le _ _) hstore

theorem snapshot_update (change : Snapshot → Snapshot) (c : Checkpointer) (w : ω) :
    (c.update change w).2.1.snapshot = change c.snapshot := by
  rw [update_eq]
  dsimp only
  split <;> rfl

end World

end Checkpointer

end DurableCalc
