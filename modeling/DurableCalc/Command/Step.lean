import DurableCalc.Error
import DurableCalc.Text.Blank

/-!
# Steps of a command

A command works in steps, each decided by its progress alone: it asks for a line, tells one, or
ends. After a line that is asked for, and after a line that is told before the end, the new
progress is saved. `readInteger` and `readCount` read the numbers that a command asks for.
-/

namespace DurableCalc

/-- What a command does next; `σ` is what it goes on with. -/
inductive Step (σ : Type)
  | refuse (error : SnapshotError)
  /-- It stops on the numbers that it has. -/
  | reject (error : InputError)
  /-- It reads a line and saves what it makes of it. -/
  | ask (accept : String → Except InputError σ)
  | tell (line : String) (next : σ)
  /-- It writes the state of the generator and saves that it did, with the state advanced. -/
  | draw (next : σ)
  | save (next : σ)
  | conclude (line : String)
  | finished

def Step.map (f : σ → τ) : Step σ → Step τ
  | .refuse error => .refuse error
  | .reject error => .reject error
  | .ask accept => .ask fun line => (accept line).map f
  | .tell line next => .tell line (f next)
  | .draw next => .draw (f next)
  | .save next => .save (f next)
  | .conclude line => .conclude line
  | .finished => .finished

/-- What a step goes on with, unless it reads a line first or is the last. -/
def Step.goesOn? : Step σ → Option σ
  | .tell _ next => some next
  | .draw next => some next
  | .save next => some next
  | _ => none

@[simp] theorem Step.goesOn?_map (f : σ → τ) (step : Step σ) :
    (step.map f).goesOn? = step.goesOn?.map f := by
  cases step <;> rfl

def readInteger (line : String) : Except InputError Int64 :=
  match Text.readInt64 (Text.trim line) with
  | .ok value => .ok value
  | .error error => .error (.notAnInteger (Text.trim line) error)

def readCount (maxCount : UInt32) (line : String) : Except InputError UInt32 :=
  match readInteger line with
  | .error error => .error error
  | .ok value =>
    if 0 ≤ value.toInt ∧ value.toInt ≤ maxCount.toNat then .ok value.toInt.toNat.toUInt32
    else .error (.countOutOfRange maxCount value)

end DurableCalc
