import DurableCalc.Session.World
import DurableCalc.Channel.Terminal

/-!
# The status of a slot

The status is the saved snapshot as indented JSON text, or one line that says there is none. A sink
that fails in the middle of the JSON text is reported as a fault of the snapshot, a sink that fails
in what stands outside of it as a fault of its own. `reset` makes the status say that there is none.
-/

namespace DurableCalc.Status

def noSavedState : String := "no saved state"

/-- The text of a saved snapshot, without the newline at its end. -/
def text (s : Snapshot) : Bytes :=
  s.write .indented

variable {m : Type → Type} {ω κ : Type}

def renderM [Monad m] (write : Bytes → κ → m (Except String Unit × κ)) (blob : Bytes) (sink : κ) :
    m (Except Error Unit × κ) := do
  match Snapshot.decode blob with
  | .error error => return (.error (.snapshot (.decode error)), sink)
  | .ok none =>
    match ← write (Text.encode noSavedState ++ [0x0a]) sink with
    | (result, sink) => return (result.mapError .io, sink)
  | .ok (some s) =>
    match ← write (text s) sink with
    | (.error reason, sink) => return (.error (.snapshot (.unwritable reason)), sink)
    | (.ok (), sink) =>
      match ← write [0x0a] sink with
      | (result, sink) => return (result.mapError .io, sink)

def tellM [Monad m] [Calls m ω] (write : Bytes → κ → m (Except String Unit × κ)) (w : ω)
    (sink : κ) : m (Except Error Unit × κ × ω) := do
  match ← Calls.load w with
  | (.error error, w) => return (.error error, sink, w)
  | (.ok blob, w) =>
    match ← renderM write blob sink with
    | (result, sink) => return (result, sink, w)

def resetM [Monad m] [Calls m ω] (w : ω) : m (Except Error Unit × ω) :=
  Calls.store none [] w

def render (blob : Bytes) (sink : Sink) : Except Error Unit × Sink :=
  renderM (m := Id) Sink.write blob sink

def tell [World ω] (w : ω) (sink : Sink) : Except Error Unit × Sink × ω :=
  tellM (m := Id) Sink.write w sink

def reset [World ω] (w : ω) : Except Error Unit × ω :=
  resetM (m := Id) w

theorem render_eq (blob : Bytes) (sink : Sink) :
    render blob sink =
      match Snapshot.decode blob with
      | .error error => (.error (.snapshot (.decode error)), sink)
      | .ok none =>
        match sink.write (Text.encode noSavedState ++ [0x0a]) with
        | (result, sink) => (result.mapError .io, sink)
      | .ok (some s) =>
        match sink.write (text s) with
        | (.error reason, sink) => (.error (.snapshot (.unwritable reason)), sink)
        | (.ok (), sink) =>
          match sink.write [0x0a] with
          | (result, sink) => (result.mapError .io, sink) := by
  unfold render renderM
  cases Snapshot.decode blob with
  | error error => rfl
  | ok held =>
    cases held with
    | none => rfl
    | some s =>
      dsimp only
      rcases sink.write (text s) with ⟨_ | _, _⟩ <;> rfl

theorem tell_eq [World ω] (w : ω) (sink : Sink) :
    tell w sink =
      match World.load w with
      | (.error error, w) => (.error error, sink, w)
      | (.ok blob, w) =>
        match render blob sink with
        | (result, sink) => (result, sink, w) :=
  rfl

end DurableCalc.Status
