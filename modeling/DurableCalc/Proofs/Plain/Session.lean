import DurableCalc.Command.Step
import DurableCalc.Median
import DurableCalc.Proofs.Plain.Talk

/-!
# A session in direct style

The commands and the session as talks, without snapshots, cursors or a slot. Only the state of the
generator is kept between two commands.
-/

namespace DurableCalc.Plain

open Talk

/-- The value that has at most `k` values below it and more than `k` up to it. -/
def ranked (values : List Int64) (k : Nat) : Int :=
  match values.find? fun v => values.countP (· < v) ≤ k ∧ k < values.countP (· ≤ v) with
  | some v => v.toInt
  | none => 0

/-- Twice the median: the sum of the two middle values, which are the same one if the number of
values is odd. It is zero if there are no values. -/
def doubledMedian (values : List Int64) : Int :=
  ranked values ((values.length - 1) / 2) + ranked values (values.length / 2)

def half (n : Int) : String :=
  (if n < 0 then "-" else "") ++ Text.decimal (n.natAbs / 2) ++ (if n % 2 = 0 then "" else ".5")

def advance (state : Int) : Int :=
  16807 * state % 2147483647

def sum : Talk Unit := do
  let first ← hear readInteger
  let second ← hear readInteger
  let total := first.toInt + second.toInt
  if -9223372036854775808 ≤ total ∧ total ≤ 9223372036854775807 then say (Text.decimal total)
  else fail (.overflow first second)

def integers : Nat → Talk (List Int64)
  | 0 => return []
  | n + 1 => do
    let value ← hear readInteger
    let values ← integers n
    return value :: values

def median (maxCount : UInt32) : Talk Unit := do
  let count ← hear (readCount maxCount)
  let values ← integers count.toNat
  say (half (doubledMedian values))

def draws : Nat → Int → Talk Int
  | 0, state => return state
  | n + 1, state => do
    say (Text.decimal state)
    draws n (advance state)

def randomSequence (maxCount : UInt32) (state : Int) : Talk Int := do
  let count ← hear (readCount maxCount)
  draws count.toNat state

def leaveHelp : String := "Type end to leave help mode"

def listing : String := "Available commands: sum, median, random-sequence"

def intro : List String :=
  ["Enter a command name to see its help", listing, leaveHelp]

def block (topic : String) : List String :=
  if topic = "sum" ∨ topic = "add" then ["Adds two integers", leaveHelp]
  else if topic = "median" then ["Computes the median of a list of integers", leaveHelp]
  else if topic = "random-sequence" ∨ topic = "rand" then
    ["Generates a sequence of pseudo-random numbers", leaveHelp]
  else ["No such command", listing, leaveHelp]

def answerTopics : List String → Answer Unit
  | [] => ⟨[], [], .error .endOfInput⟩
  | line :: rest =>
    if Text.trim line = "end" then ⟨[], rest, .ok ()⟩
    else (answerTopics rest).after (block (Text.fold (Text.trim line)))

theorem length_rest_answerTopics_le (lines : List String) :
    (answerTopics lines).rest.length ≤ lines.length := by
  induction lines with
  | nil => simp [answerTopics]
  | cons line rest ih =>
    rw [answerTopics]
    split
    · simp
    · simp only [Answer.after, List.length_cons]
      omega

def topics : Talk Unit :=
  ⟨answerTopics, length_rest_answerTopics_le⟩

def help : Talk Unit := do
  sayAll intro
  topics

def command (maxCount : UInt32) (state : Int) (name : String) : Talk Int :=
  if name = "sum" ∨ name = "add" then do
    sum
    return state
  else if name = "median" then do
    median maxCount
    return state
  else if name = "random-sequence" ∨ name = "rand" then randomSequence maxCount state
  else if name = "help" then do
    help
    return state
  else do
    say "Unknown command, type help for the list of commands"
    return state

def serve (command : Int → String → Talk Int) (state : Int) : List String → Answer Unit
  | [] => ⟨[], [], .error .endOfInput⟩
  | line :: rest =>
    if Text.fold (Text.trim line) = "exit" then ⟨[], rest, .ok ()⟩
    else
      let a := (command state (Text.fold (Text.trim line))).answer rest
      match a.result with
      | .error error => ⟨a.written, a.rest, .error error⟩
      | .ok later => (serve command later a.rest).after a.written
termination_by lines => lines.length
decreasing_by
  have := (command state (Text.fold (Text.trim line))).length_rest_le rest
  simp only [List.length_cons]
  omega

def session (maxCount : UInt32) : Int → List String → Answer Unit :=
  serve (command maxCount)

end DurableCalc.Plain
