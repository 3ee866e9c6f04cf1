import DurableCalc.Channel.Terminal
import Mathlib.Data.List.Basic

/-!
# Lines from a part of the input

Where a part of the input ends with a line, its lines are read alike whether more input follows or
not. So the lines of an input are those of its parts, one part after the other.
-/

namespace DurableCalc

def WholeLines (bytes : Bytes) : Prop :=
  bytes = [] ∨ bytes.getLast? = some 0x0a

theorem WholeLines.mem {bytes : Bytes} (h : WholeLines bytes) (hne : bytes ≠ []) :
    0x0a ∈ bytes := by
  rcases h with hnil | hlast
  · exact absurd hnil hne
  · exact List.mem_of_mem_getLast? hlast

theorem splitLine_append_of_mem {bytes : Bytes} (h : 0x0a ∈ bytes) (later : Bytes) :
    splitLine (bytes ++ later) = ((splitLine bytes).1, (splitLine bytes).2 ++ later) := by
  induction bytes with
  | nil => cases h
  | cons b rest ih =>
    by_cases hb : b = 0x0a
    · simp [splitLine, hb]
    · have hrest : 0x0a ∈ rest := by
        rcases List.mem_cons.1 h with h | h
        · exact absurd h.symm hb
        · exact h
      simp [splitLine, hb, ih hrest]

theorem WholeLines.splitLine {bytes : Bytes} (h : WholeLines bytes) :
    WholeLines (splitLine bytes).2 := by
  rcases h with rfl | hlast
  · exact .inl rfl
  by_cases hrest : (DurableCalc.splitLine bytes).2 = []
  · exact .inl hrest
  · right
    rw [← splitLine_append bytes, List.getLast?_append_of_ne_nil _ hrest] at hlast
    exact hlast

theorem splitLine_ne_nil {bytes : Bytes} (h : bytes ≠ []) : (splitLine bytes).1 ≠ [] := by
  intro hline
  have happend := splitLine_append bytes
  have hlt := splitLine_rest_lt h
  rw [hline, List.nil_append] at happend
  rw [happend] at hlt
  exact Nat.lt_irrefl _ hlt

namespace Source

variable {s : Source} {later : Bytes}

theorem readLine_of_nil (hbroken : s.broken = false) (hnil : s.unread = []) :
    s.readLine = (.error .endOfInput, s) := by
  cases s with
  | mk unread broken =>
    cases hbroken
    cases hnil
    rfl

theorem readLine_append (hbroken : s.broken = false) (hne : s.unread ≠ [])
    (hlines : later = [] ∨ WholeLines s.unread) :
    readLine { s with unread := s.unread ++ later } =
      (s.readLine.1, { s.readLine.2 with unread := s.readLine.2.unread ++ later }) := by
  have hsplit : splitLine (s.unread ++ later) =
      ((splitLine s.unread).1, (splitLine s.unread).2 ++ later) := by
    rcases hlines with rfl | hlines
    · simp
    · exact splitLine_append_of_mem (hlines.mem hne) later
  simp only [readLine, hsplit, hbroken, Bool.false_and, Bool.false_eq_true, if_false]
  split
  · rfl
  · split <;> rfl

theorem unread_readLine (s : Source) : s.readLine.2.unread = (splitLine s.unread).2 := by
  unfold readLine
  dsimp only
  repeat' split
  all_goals rfl

theorem broken_readLine (s : Source) : s.readLine.2.broken = s.broken := by
  unfold readLine
  dsimp only
  repeat' split
  all_goals rfl

theorem readLine_fst (hbroken : s.broken = false) (hne : (splitLine s.unread).1 ≠ []) :
    s.readLine.1 = match Text.decode? (splitLine s.unread).1 with
      | none => .error (.channel (.read "stream did not contain valid UTF-8"))
      | some text => .ok (chomp text) := by
  have hline : (splitLine s.unread).1.isEmpty = false := by simpa using hne
  simp only [readLine, hbroken, hline, Bool.false_and, Bool.false_eq_true, if_false]
  cases Text.decode? (splitLine s.unread).1 <;> rfl

theorem readLine_ne_endOfInput (hbroken : s.broken = false) (hne : s.unread ≠ []) :
    s.readLine.1 ≠ .error .endOfInput := by
  rw [readLine_fst hbroken (splitLine_ne_nil hne)]
  cases Text.decode? (splitLine s.unread).1 <;> simp

end Source

namespace Sink

structure Open (s : Sink) : Prop where
  room_eq : s.room = none
  flushRefused_eq : s.flushRefused = false

theorem Open.writeLine_eq {s : Sink} (h : s.Open) (line : String) :
    s.writeLine line = (.ok (), s.keep (Text.encode line ++ [0x0a]) none) := by
  simp [writeLine, write, h.room_eq, flush, keep, h.flushRefused_eq]

theorem Open.keep {s : Sink} (h : s.Open) (bytes : Bytes) : (s.keep bytes none).Open :=
  ⟨rfl, h.flushRefused_eq⟩

end Sink

end DurableCalc
