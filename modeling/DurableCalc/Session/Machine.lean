import DurableCalc.Session.Checkpointer

/-!
# Machines

A machine decides from the snapshot and its own control state what to do next: read a line, write a
line, save, or stop. `Machine.run` carries its moves out on a world until it stops or a call fails.
Every run ends, since each move uses up a line or some of the work that the machine has left.
-/

namespace DurableCalc

/-- What a machine does next; `σ` is its control state. -/
inductive Move (σ : Type)
  /-- It reads a line and saves what it makes of it. -/
  | ask (accept : String → Except Error (Snapshot × σ))
  /-- It makes log entries, writes a line and saves. -/
  | tell (entries : List Log.Entry) (line : String) (snapshot : Snapshot) (next : σ)
  | save (snapshot : Snapshot) (next : σ)
  | conclude (line : String)
  | leave
  | stop (result : Except Error Unit)

/-- What a move goes on with, unless it reads a line first or is the last. -/
def Move.goesOn? : Move σ → Option (Snapshot × σ)
  | .tell _ _ s next => some (s, next)
  | .save s next => some (s, next)
  | _ => none

structure Machine (σ : Type) where
  next : Snapshot → σ → Move σ
  /-- A bound on the moves before a line is read or the machine stops. -/
  work : Snapshot → σ → Nat
  work_lt : ∀ {s s' : Snapshot} {k k' : σ},
    (next s k).goesOn? = some (s', k') → work s' k' < work s k

inductive Turn (σ ω : Type)
  | going (checkpointer : Checkpointer) (control : σ) (world : ω)
  | over (result : Except Error Unit) (checkpointer : Checkpointer) (world : ω)

namespace Machine

variable {m : Type → Type} {σ ω : Type}

def saveThenM [Monad m] [Calls m ω] (s : Snapshot) (next : σ) (c : Checkpointer) (w : ω) :
    m (Turn σ ω) := do
  match ← c.updateM (fun _ => s) w with
  | (.error error, c, w) => return .over (.error error) c w
  | (.ok (), c, w) => return .going c next w

def leftEntry (c : Checkpointer) : Log.Entry :=
  { level := .info
    part := .session
    message := "session exited"
    fields := [("checkpoints", .number c.writes)] }

def carryOutM [Monad m] [Calls m ω] (move : Move σ) (c : Checkpointer) (w : ω) :
    m (Turn σ ω) := do
  match move with
  | .ask accept =>
    match ← Calls.readLine w with
    | (.error error, w) => return .over (.error error) c w
    | (.ok line, w) =>
      match accept line with
      | .error error => return .over (.error error) c w
      | .ok (s, next) => saveThenM s next c w
  | .tell entries line s next =>
    match ← Calls.writeLine line (← Calls.noteAll entries w) with
    | (.error error, w) => return .over (.error error) c w
    | (.ok (), w) => saveThenM s next c w
  | .save s next => saveThenM s next c w
  | .conclude line =>
    match ← Calls.writeLine line w with
    | (result, w) => return .over result c w
  | .leave =>
    match ← c.clearM w with
    | (.error error, c, w) => return .over (.error error) c w
    | (.ok (), c, w) => return .over (.ok ()) c (← Calls.note (leftEntry c) w)
  | .stop result => return .over result c w

variable [World ω]

def saveThen (s : Snapshot) (next : σ) (c : Checkpointer) (w : ω) : Turn σ ω :=
  saveThenM (m := Id) s next c w

def carryOut (move : Move σ) (c : Checkpointer) (w : ω) : Turn σ ω :=
  carryOutM (m := Id) move c w

theorem saveThen_eq (s : Snapshot) (next : σ) (c : Checkpointer) (w : ω) :
    saveThen s next c w =
      match c.update (fun _ => s) w with
      | (.error error, c, w) => .over (.error error) c w
      | (.ok (), c, w) => .going c next w :=
  rfl

theorem carryOut_eq (move : Move σ) (c : Checkpointer) (w : ω) :
    carryOut move c w =
      match move with
      | .ask accept =>
        match World.readLine w with
        | (.error error, w) => .over (.error error) c w
        | (.ok line, w) =>
          match accept line with
          | .error error => .over (.error error) c w
          | .ok (s, next) => saveThen s next c w
      | .tell entries line s next =>
        match World.writeLine line (World.noteAll entries w) with
        | (.error error, w) => .over (.error error) c w
        | (.ok (), w) => saveThen s next c w
      | .save s next => saveThen s next c w
      | .conclude line =>
        match World.writeLine line w with
        | (result, w) => .over result c w
      | .leave =>
        match c.clear w with
        | (.error error, c, w) => .over (.error error) c w
        | (.ok (), c, w) => .over (.ok ()) c (World.note (leftEntry c) w)
      | .stop result => .over result c w := by
  cases move with
  | tell entries line s next =>
    dsimp only
    rw [← World.noteAll_calls]
    rfl
  | _ => rfl

theorem saveThen_going {s : Snapshot} {next k : σ} {c c' : Checkpointer} {w w' : ω}
    (h : saveThen s next c w = .going c' k w') :
    k = next ∧ c'.snapshot = s ∧ World.unread w' ≤ World.unread w := by
  have hsnapshot := Checkpointer.snapshot_update (fun _ => s) c w
  have hunread := Checkpointer.unread_update_le (fun _ => s) c w
  rw [saveThen_eq] at h
  split at h
  · cases h
  · rename_i hu
    cases h
    simp only [hu] at hsnapshot hunread
    exact ⟨rfl, hsnapshot, hunread⟩

/-- A machine that goes on has fewer lines left, or as many and less work. -/
theorem carryOut_going (M : Machine σ) {c c' : Checkpointer} {k k' : σ} {w w' : ω}
    (h : carryOut (M.next c.snapshot k) c w = .going c' k' w') :
    Prod.Lex (· < ·) (· < ·) (World.unread w', M.work c'.snapshot k')
      (World.unread w, M.work c.snapshot k) := by
  have less {n : Nat} (hn : n ≤ World.unread w)
      (hwork : M.work c'.snapshot k' < M.work c.snapshot k) :
      Prod.Lex (· < ·) (· < ·) (n, M.work c'.snapshot k')
        (World.unread w, M.work c.snapshot k) := by
    rcases Nat.lt_or_eq_of_le hn with hlt | rfl
    · exact .left _ _ hlt
    · exact .right _ hwork
  rw [carryOut_eq] at h
  split at h
  · split at h
    · cases h
    · rename_i hread
      have hlt := World.unread_readLine_lt hread
      split at h
      · cases h
      · obtain ⟨_, _, hle⟩ := saveThen_going h
        exact .left _ _ (by omega)
  · rename_i entries line s next hmove
    split at h
    · cases h
    · rename_i hwrite
      have hle := World.unread_writeLine_le line (World.noteAll entries w)
      rw [hwrite] at hle
      obtain ⟨rfl, rfl, hle'⟩ := saveThen_going h
      have := World.unread_noteAll_le entries w
      exact less (by simp only at hle; omega) (M.work_lt (congrArg Move.goesOn? hmove))
  · rename_i s next hmove
    obtain ⟨rfl, rfl, hle⟩ := saveThen_going h
    exact less hle (M.work_lt (congrArg Move.goesOn? hmove))
  · cases h
  · split at h <;> cases h
  · cases h

def run (M : Machine σ) (c : Checkpointer) (k : σ) (w : ω) : Except Error Unit × Checkpointer × ω :=
  match _turn : carryOut (M.next c.snapshot k) c w with
  | .over result c w => (result, c, w)
  | .going c' k' w' => run M c' k' w'
termination_by (World.unread w, M.work c.snapshot k)
decreasing_by exact M.carryOut_going _turn

theorem run_over {M : Machine σ} {c c' : Checkpointer} {k : σ} {w w' : ω}
    {result : Except Error Unit} (h : carryOut (M.next c.snapshot k) c w = .over result c' w') :
    M.run c k w = (result, c', w') := by
  rw [run]
  split
  · rename_i h'
    rw [h] at h'
    cases h'
    rfl
  · rename_i h'
    rw [h] at h'
    cases h'

theorem run_going {M : Machine σ} {c c' : Checkpointer} {k k' : σ} {w w' : ω}
    (h : carryOut (M.next c.snapshot k) c w = .going c' k' w') :
    M.run c k w = M.run c' k' w' := by
  rw [run]
  split
  · rename_i h'
    rw [h] at h'
    cases h'
  · rename_i h'
    rw [h] at h'
    cases h'
    rfl

end Machine

end DurableCalc
