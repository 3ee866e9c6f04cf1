import DurableCalc.Proofs.Channel.Source

/-!
# Sinks with little room

A sink that has room for so many bytes in all takes every line that fits, as a sink without a limit
does. Of the first line that does not fit it keeps what it has room for, so that it then holds as
many bytes of the whole output as there was room for.
-/

namespace DurableCalc

def printed (line : String) : Bytes :=
  Text.encode line ++ [0x0a]

theorem wholeLines_append_printed (bytes : Bytes) (line : String) :
    WholeLines (bytes ++ printed line) := by
  right
  rw [printed, ← List.append_assoc, List.getLast?_concat]

/-- Where the line begins that has the byte at a place; a newline belongs to the line before it. -/
def lineStart (bytes : Bytes) (n : Nat) : Nat :=
  ((bytes.take n).reverse.dropWhile (· ≠ 0x0a)).length

theorem dropWhile_reverse_of_wholeLines {bytes : Bytes} (h : WholeLines bytes) :
    bytes.reverse.dropWhile (· ≠ 0x0a) = bytes.reverse := by
  rcases h with rfl | hlast
  · rfl
  · obtain ⟨front, rfl⟩ := List.getLast?_eq_some_iff.1 hlast
    rw [List.reverse_concat]
    exact List.dropWhile_cons_of_neg (by simp)

/-- Behind whole lines, every byte of a line and of its newline has its start where they end. -/
theorem lineStart_append {front line : Bytes} (hfront : WholeLines front) (hline : 0x0a ∉ line)
    (rest : Bytes) {n : Nat} (hge : front.length ≤ n) (hle : n ≤ front.length + line.length) :
    lineStart (front ++ (line ++ rest)) n = front.length := by
  have htake : (front ++ (line ++ rest)).take n = front ++ line.take (n - front.length) := by
    rw [List.take_append, List.take_of_length_le hge, List.take_append_of_le_length (by omega)]
  have hinside : ∀ b ∈ (line.take (n - front.length)).reverse, decide (b ≠ 0x0a) = true := by
    intro b hb
    rw [decide_eq_true_eq]
    rintro rfl
    exact hline (List.mem_of_mem_take (List.mem_reverse.1 hb))
  rw [lineStart, htake, List.reverse_append, List.dropWhile_append_of_pos hinside,
    dropWhile_reverse_of_wholeLines hfront, List.length_reverse]

/-- The newline at place 3 and the bytes before it belong to the line that begins at place 2. -/
example : [1, 2, 3, 4].map (lineStart [0x31, 0x0a, 0x32, 0x0a, 0x33]) = [0, 2, 2, 4] := by decide

namespace Sink

variable {s : Sink} {room : Nat} {line : String}

def narrow (room : Nat) (s : Sink) : Sink :=
  { s with room := some (room - s.written.length) }

theorem Open.written_writeLine (h : s.Open) (line : String) :
    (s.writeLine line).2.written = s.written ++ printed line := by
  rw [h.writeLine_eq, written_keep]
  rfl

theorem Open.writeLine (h : s.Open) (line : String) :
    (s.writeLine line).1 = .ok () ∧ (s.writeLine line).2.Open := by
  rw [h.writeLine_eq]
  exact ⟨rfl, h.keep _⟩

theorem write_narrow {bytes : Bytes} (hfits : (s.written ++ bytes).length ≤ room) :
    (s.narrow room).write bytes = (.ok (), (s.keep bytes none).narrow room) := by
  rw [List.length_append] at hfits
  have hroom : bytes.length ≤ room - s.written.length := by omega
  have hleft : room - s.written.length - bytes.length =
      room - (s.keep bytes none).written.length := by
    rw [written_keep, List.length_append, Nat.sub_sub]
  simp only [write, narrow, if_pos hroom, hleft]
  rfl

theorem write_narrow_of_lt {bytes : Bytes} (hle : s.written.length ≤ room)
    (hspills : room < (s.written ++ bytes).length) :
    (s.narrow room).write bytes =
      (.error "sink full", s.keep (bytes.take (room - s.written.length)) (some 0)) := by
  rw [List.length_append] at hspills
  have hroom : ¬ bytes.length ≤ room - s.written.length := by omega
  simp only [write, narrow, if_neg hroom]
  rfl

theorem Open.writeLine_narrow (h : s.Open) (hfits : (s.written ++ printed line).length ≤ room) :
    (s.narrow room).writeLine line = ((s.writeLine line).1, (s.writeLine line).2.narrow room) := by
  have hwrite := write_narrow hfits
  have hflush : ((s.keep (printed line) none).narrow room).flush = .ok () := by
    simp [flush, narrow, (h.keep (printed line)).flushRefused_eq]
  rw [printed] at hwrite hflush
  rw [h.writeLine_eq, Sink.writeLine, hwrite]
  dsimp only
  rw [hflush]

theorem writeLine_narrow_of_lt (hle : s.written.length ≤ room)
    (hspills : room < (s.written ++ printed line).length) :
    ((s.narrow room).writeLine line).1 = .error "sink full" ∧
      ((s.narrow room).writeLine line).2.written = (s.written ++ printed line).take room := by
  have hwrite := write_narrow_of_lt hle hspills
  have htake : (s.written ++ printed line).take room =
      s.written ++ (printed line).take (room - s.written.length) := by
    rw [List.take_append, List.take_of_length_le hle]
  rw [printed] at hwrite
  rw [Sink.writeLine, hwrite, htake]
  exact ⟨rfl, written_keep _ _ s⟩

end Sink

end DurableCalc
