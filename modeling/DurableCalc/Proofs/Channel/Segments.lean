import DurableCalc.Proofs.Channel.Source
import Mathlib.Data.List.DropRight

/-!
# The segments of an input

An input is cut behind every newline into segments, the last of which may have none. Each call for a
line uses up one segment, whatever is written in between. What the call gives depends on its segment
alone: the text without the line breaks at its end, or an error where the segment is no UTF-8. The
input has ended when all segments are used up, and not before.
-/

namespace DurableCalc

/-- Bytes and the segments that they come to when they are cut behind every newline. -/
inductive Cut : Bytes → List Bytes → Prop
  | nil : Cut [] []
  | last {line : Bytes} (hne : line ≠ []) (hline : 0x0a ∉ line) : Cut line [line]
  | cons {line rest : Bytes} {segments : List Bytes} (hline : 0x0a ∉ line)
      (hrest : Cut rest segments) : Cut (line ++ 0x0a :: rest) ((line ++ [0x0a]) :: segments)

theorem exists_cut (bytes : Bytes) : ∃ segments, Cut bytes segments := by
  induction bytes with
  | nil => exact ⟨[], .nil⟩
  | cons b rest ih =>
    obtain ⟨segments, hcut⟩ := ih
    by_cases hb : b = 0x0a
    · subst hb
      exact ⟨_, @Cut.cons [] _ _ List.not_mem_nil hcut⟩
    have hcons {line : Bytes} (hline : 0x0a ∉ line) : 0x0a ∉ b :: line := by
      rw [List.mem_cons, not_or]
      exact ⟨Ne.symm hb, hline⟩
    cases hcut with
    | nil => exact ⟨_, .last (List.cons_ne_nil b []) (hcons List.not_mem_nil)⟩
    | last hne hline => exact ⟨_, .last (List.cons_ne_nil b _) (hcons hline)⟩
    | cons hline hrest => exact ⟨_, .cons (hcons hline) hrest⟩

theorem splitLine_of_notMem {line : Bytes} (h : 0x0a ∉ line) : splitLine line = (line, []) := by
  induction line with
  | nil => rfl
  | cons b line ih =>
    rw [List.mem_cons, not_or] at h
    simp [splitLine, Ne.symm h.1, ih h.2]

theorem splitLine_append_newline {line : Bytes} (h : 0x0a ∉ line) (rest : Bytes) :
    splitLine (line ++ 0x0a :: rest) = (line ++ [0x0a], rest) := by
  induction line with
  | nil => simp [splitLine]
  | cons b line ih =>
    rw [List.mem_cons, not_or] at h
    simp [splitLine, Ne.symm h.1, ih h.2]

namespace Cut

variable {bytes segment : Bytes} {segments : List Bytes}

theorem flatten_eq (h : Cut bytes segments) : segments.flatten = bytes := by
  induction h with
  | nil => rfl
  | last hne hline => simp
  | cons hline hrest ih => simp [ih]

theorem splitLine_eq (h : Cut bytes (segment :: segments)) :
    segment ≠ [] ∧ (splitLine bytes).1 = segment ∧ Cut (splitLine bytes).2 segments := by
  cases h with
  | last hne hline =>
    rw [splitLine_of_notMem hline]
    exact ⟨hne, rfl, .nil⟩
  | cons hline hrest =>
    rw [splitLine_append_newline hline]
    exact ⟨by simp, rfl, hrest⟩

end Cut

def IsBreak (c : Char) : Prop :=
  c = '\n' ∨ c = '\r'

/-- What is read from a segment: its text without the line breaks at its end, if it is UTF-8. -/
inductive Gives (segment : Bytes) : Except Error String → Prop
  | text {line breaks : String} (hsegment : Text.encode (line ++ breaks) = segment)
      (hbreaks : ∀ c ∈ breaks.toList, IsBreak c)
      (hline : ∀ c, line.toList.getLast? = some c → ¬ IsBreak c) : Gives segment (.ok line)
  | invalid (hsegment : ∀ text, Text.encode text ≠ segment) :
      Gives segment (.error (.channel (.read "stream did not contain valid UTF-8")))

/-- Chomping takes away all line breaks at the end and nothing else. -/
theorem exists_chomp (text : String) :
    ∃ breaks, text = chomp text ++ breaks ∧ (∀ c ∈ breaks.toList, IsBreak c) ∧
      ∀ c, (chomp text).toList.getLast? = some c → ¬ IsBreak c := by
  let p : Char → Bool := fun c => c = '\n' || c = '\r'
  have hp (c : Char) : p c = true ↔ IsBreak c := by simp [p, IsBreak]
  have hchomp : (chomp text).toList = text.toList.rdropWhile p := String.toList_ofList
  refine ⟨String.ofList (text.toList.rtakeWhile p), ?_, fun c hc => ?_, fun c hc => ?_⟩
  · rw [← String.toList_inj, String.toList_append, hchomp, String.toList_ofList,
      List.rdropWhile_append_rtakeWhile]
  · rw [String.toList_ofList] at hc
    exact (hp c).1 (List.mem_rtakeWhile_imp hc)
  · rw [hchomp] at hc
    have hne : text.toList.rdropWhile p ≠ [] := by
      intro hnil
      rw [hnil] at hc
      cases hc
    rw [List.getLast?_eq_some_getLast hne, Option.some.injEq] at hc
    exact hc ▸ (hp _).not.1 (List.rdropWhile_last_not p _ hne)

theorem gives_of_decode? (segment : Bytes) :
    Gives segment (match Text.decode? segment with
      | none => .error (.channel (.read "stream did not contain valid UTF-8"))
      | some text => .ok (chomp text)) := by
  cases hdecode : Text.decode? segment with
  | none =>
    refine .invalid fun text hsegment => ?_
    rw [← hsegment, Text.decode?_encode] at hdecode
    cases hdecode
  | some text =>
    obtain ⟨breaks, htext, hbreaks, hline⟩ := exists_chomp text
    exact .text (htext ▸ Text.encode_of_decode? hdecode) hbreaks hline

theorem Gives.ne_endOfInput {segment : Bytes} {result : Except Error String}
    (h : Gives segment result) : result ≠ .error .endOfInput := by
  cases h <;> simp

namespace Source

variable {s : Source} {segment : Bytes} {segments : List Bytes}

theorem gives_readLine (hbroken : s.broken = false) (h : Cut s.unread (segment :: segments)) :
    Gives segment s.readLine.1 := by
  obtain ⟨hne, hline, -⟩ := h.splitLine_eq
  rw [readLine_fst hbroken (hline ▸ hne), hline]
  exact gives_of_decode? segment

theorem cut_readLine (h : Cut s.unread segments) : Cut s.readLine.2.unread (segments.drop 1) := by
  rw [unread_readLine]
  cases segments with
  | nil =>
    rw [← h.flatten_eq]
    exact .nil
  | cons segment segments => exact h.splitLine_eq.2.2

end Source

namespace Terminal

def opening (bytes : Bytes) (sink : Sink) : Terminal where
  source := { unread := bytes }
  sink

inductive Call
  | read
  | write (line : String)
  deriving DecidableEq, Repr

def answer (t : Terminal) : Call → Terminal
  | .read => t.readLine.2
  | .write line => (t.writeLine line).2

def after (t : Terminal) (calls : List Call) : Terminal :=
  calls.foldl answer t

variable {segments : List Bytes}

theorem source_answer_read (t : Terminal) : (t.answer .read).source = t.source.readLine.2 := rfl

/-- As many segments are used up as lines were called for. -/
theorem cut_after (calls : List Call) {t : Terminal} (hbroken : t.source.broken = false)
    (h : Cut t.source.unread segments) :
    (t.after calls).source.broken = false ∧
      Cut (t.after calls).source.unread (segments.drop (calls.count .read)) := by
  induction calls generalizing t segments with
  | nil => exact ⟨hbroken, h⟩
  | cons call calls ih =>
    cases call with
    | read =>
      rw [List.count_cons_self, Nat.add_comm, ← List.drop_drop]
      refine ih ?_ (Source.cut_readLine h)
      rw [source_answer_read, Source.broken_readLine, hbroken]
    | write line =>
      rw [List.count_cons_of_ne (by simp)]
      exact ih hbroken h

/-- Every input is cut into segments that the calls for a line use up one after the other, however
lines are written in between: each gives what is read from its own segment, be the one before it
UTF-8 or not, and the input has ended just when no segment is left. -/
theorem reads_segments (bytes : Bytes) (sink : Sink) :
    (∃ segments, Cut bytes segments) ∧ ∀ segments, Cut bytes segments → ∀ calls : List Call,
      let t := (opening bytes sink).after calls
      let i := calls.count .read
      (∀ segment, segments[i]? = some segment →
        t.source.unread = segment ++ t.readLine.2.source.unread ∧ Gives segment t.readLine.1) ∧
      t.readLine.2.source.unread = (segments.drop (i + 1)).flatten ∧
      (t.readLine.1 = .error .endOfInput ↔ segments.length ≤ i) := by
  refine ⟨exists_cut bytes, fun segments hcut calls => ?_⟩
  intro t i
  obtain ⟨hbroken, hleft⟩ : t.source.broken = false ∧ Cut t.source.unread (segments.drop i) :=
    cut_after calls rfl hcut
  have hnext : t.readLine.2.source.unread = (segments.drop (i + 1)).flatten := by
    rw [← List.drop_drop]
    exact (Source.cut_readLine hleft).flatten_eq.symm
  by_cases hi : i < segments.length
  · have hdrop : segments.drop i = segments[i] :: segments.drop (i + 1) :=
      List.drop_eq_getElem_cons hi
    have hunread : t.source.unread = segments[i] ++ t.readLine.2.source.unread := by
      rw [hnext, ← hleft.flatten_eq, hdrop, List.flatten_cons]
    have hgives : Gives segments[i] t.readLine.1 := Source.gives_readLine hbroken (hdrop ▸ hleft)
    refine ⟨?_, hnext, iff_of_false hgives.ne_endOfInput (by omega)⟩
    intro segment hsegment
    obtain rfl : segments[i] = segment := by simpa [hi] using hsegment
    exact ⟨hunread, hgives⟩
  · have hlength : segments.length ≤ i := Nat.le_of_not_lt hi
    have hnil : t.source.unread = [] := by
      rw [← hleft.flatten_eq, List.drop_of_length_le hlength, List.flatten_nil]
    refine ⟨?_, hnext, iff_of_true ?_ hlength⟩
    · intro segment hsegment
      rw [List.getElem?_eq_none hlength] at hsegment
      cases hsegment
    · rw [readLine, Source.readLine_of_nil hbroken hnil]

end Terminal

end DurableCalc
