import DurableCalc.Error
import DurableCalc.Log

/-!
# Worlds

What is outside of a session: a channel of lines, a slot and a log. Each call gives a result and the
world after it, also when it fails. A session is written for calls that any monad carries out, so
that one text of it runs on a world that is a value and on the real terminal. A world has finitely
many lines to read, and only reading uses them up.
-/

namespace DurableCalc

/-- The calls on what is outside, `ω`, as a monad carries them out. -/
class Calls (m : Type → Type) (ω : Type) where
  readLine : ω → m (Except Error String × ω)
  writeLine : String → ω → m (Except Error Unit × ω)
  load : ω → m (Except Error Bytes × ω)
  /-- Saves a blob; the command that it is saved for, if there is one, is only told to the log. -/
  store : Option String → Bytes → ω → m (Except Error Unit × ω)
  note : Log.Entry → ω → m ω

def Calls.noteAll {m : Type → Type} {ω : Type} [Monad m] [Calls m ω] (entries : List Log.Entry)
    (w : ω) : m ω :=
  entries.foldlM (fun w entry => Calls.note entry w) w

class World (ω : Type) where
  readLine : ω → Except Error String × ω
  writeLine : String → ω → Except Error Unit × ω
  load : ω → Except Error Bytes × ω
  store : Option String → Bytes → ω → Except Error Unit × ω
  note : Log.Entry → ω → ω
  /-- A bound on the lines that are left. -/
  unread : ω → Nat
  unread_readLine_lt : ∀ {w after : ω} {line : String},
    readLine w = (.ok line, after) → unread after < unread w
  unread_writeLine_le : ∀ (line : String) (w : ω), unread (writeLine line w).2 ≤ unread w
  unread_store_le : ∀ (command : Option String) (blob : Bytes) (w : ω),
    unread (store command blob w).2 ≤ unread w
  unread_note_le : ∀ (entry : Log.Entry) (w : ω), unread (note entry w) ≤ unread w

namespace World

variable {ω : Type} [World ω]

instance : Calls Id ω where
  readLine := readLine
  writeLine := writeLine
  load := load
  store := store
  note := note

def noteAll (entries : List Log.Entry) (w : ω) : ω :=
  entries.foldl (fun w entry => note entry w) w

theorem unread_noteAll_le (entries : List Log.Entry) (w : ω) :
    unread (noteAll entries w) ≤ unread w := by
  induction entries generalizing w with
  | nil => exact Nat.le_refl _
  | cons entry entries ih => exact Nat.le_trans (ih _) (unread_note_le entry w)

theorem noteAll_calls (entries : List Log.Entry) (w : ω) :
    Calls.noteAll (m := Id) entries w = noteAll entries w :=
  List.idRun_foldlM

end World

end DurableCalc
