import DurableCalc.Error

/-!
# Talks

A talk is a program in direct style: it hears lines, says lines, and gives a value or stops on an
error. It is told by what it answers to a list of lines, and it cannot give lines back.
-/

namespace DurableCalc.Plain

/-- What a talk says to some lines, what it leaves of them, and what it gives. -/
structure Answer (α : Type) where
  written : List String
  rest : List String
  result : Except Error α

def Answer.after (written : List String) (a : Answer α) : Answer α :=
  { a with written := written ++ a.written }

structure Talk (α : Type) where
  answer : List String → Answer α
  length_rest_le : ∀ lines, (answer lines).rest.length ≤ lines.length

namespace Talk

def andThen (a : Answer α) (f : α → Talk β) : Answer β :=
  match a.result with
  | .error error => ⟨a.written, a.rest, .error error⟩
  | .ok value => ((f value).answer a.rest).after a.written

theorem length_rest_andThen_le (a : Answer α) (f : α → Talk β) :
    (andThen a f).rest.length ≤ a.rest.length := by
  unfold andThen
  split
  · exact Nat.le_refl _
  · exact (f _).length_rest_le a.rest

instance : Monad Talk where
  pure value := ⟨fun lines => ⟨[], lines, .ok value⟩, fun _ => Nat.le_refl _⟩
  bind t f :=
    ⟨fun lines => andThen (t.answer lines) f,
      fun lines => Nat.le_trans (length_rest_andThen_le _ f) (t.length_rest_le lines)⟩

def hear (read : String → Except InputError α) : Talk α where
  answer
    | [] => ⟨[], [], .error .endOfInput⟩
    | line :: rest => ⟨[], rest, (read line).mapError .input⟩
  length_rest_le lines := by cases lines <;> simp

def sayAll (lines : List String) : Talk Unit :=
  ⟨fun rest => ⟨lines, rest, .ok ()⟩, fun _ => Nat.le_refl _⟩

def say (line : String) : Talk Unit :=
  sayAll [line]

def fail (error : InputError) : Talk α :=
  ⟨fun rest => ⟨[], rest, .error (.input error)⟩, fun _ => Nat.le_refl _⟩

end Talk

end DurableCalc.Plain
