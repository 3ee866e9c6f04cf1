import DurableCalc.Proofs.Channel.Segments
import DurableCalc.Proofs.Text.Utf8

/-!
# Lines and their terminators

A line ends with a newline, with a carriage return and a newline, or with the input. What is read
is the same in all three cases: the line without the carriage returns at its end, those that belong
to the line among them. So a line is read as it was written just when it ends in no carriage return.
-/

namespace DurableCalc

theorem chomp_append (text : String) {breaks : String} (h : ∀ c ∈ breaks.toList, IsBreak c) :
    chomp (text ++ breaks) = chomp text := by
  have hdrop : ∀ c ∈ breaks.toList.reverse, (decide (c = '\n') || decide (c = '\r')) = true := by
    intro c hc
    simpa [IsBreak] using h c (List.mem_reverse.1 hc)
  unfold chomp
  rw [String.toList_append, List.reverse_append, List.dropWhile_append_of_pos hdrop]

/-- Chomping a text without newlines takes away the carriage returns at its end. -/
theorem exists_returns {text : String} (h : '\n' ∉ text.toList) :
    ∃ returns, text.toList = (chomp text).toList ++ List.replicate returns '\r' ∧
      (chomp text).toList.getLast? ≠ some '\r' := by
  obtain ⟨breaks, htext, hbreaks, hline⟩ := exists_chomp text
  have hchars : text.toList = (chomp text).toList ++ breaks.toList := by
    rw [← String.toList_append, ← htext]
  have hreturns : ∀ c ∈ breaks.toList, c = '\r' := by
    intro c hc
    refine (hbreaks c hc).resolve_left fun hnewline => h ?_
    rw [hchars, ← hnewline]
    exact List.mem_append_right _ hc
  refine ⟨breaks.toList.length, ?_, fun hlast => hline '\r' hlast (.inr rfl)⟩
  rw [← List.eq_replicate_of_mem hreturns]
  exact hchars

theorem chomp_eq_self_iff {text : String} (h : '\n' ∉ text.toList) :
    chomp text = text ↔ text.toList.getLast? ≠ some '\r' := by
  obtain ⟨returns, htext, hlast⟩ := exists_returns h
  constructor
  · intro hself
    rwa [hself] at hlast
  intro hend
  cases returns with
  | zero =>
    rw [List.replicate_zero, List.append_nil] at htext
    exact (String.toList_inj.1 htext).symm
  | succ returns =>
    rw [htext, List.replicate_succ', ← List.append_assoc, List.getLast?_concat] at hend
    exact absurd rfl hend

theorem Text.newline_notMem_encode {text : String} (h : '\n' ∉ text.toList) :
    0x0a ∉ encode text := fun hbyte => h (mem_of_mem_encode (c := '\n') (by decide) hbyte)

namespace Source

theorem readLine_newline {text : String} (h : '\n' ∉ text.toList) (rest : Bytes) :
    readLine { unread := Text.encode (text ++ "\n") ++ rest } =
      (.ok (chomp text), { unread := rest }) := by
  have hnewline : Text.encode "\n" = [0x0a] := by decide
  have hdecode : Text.decode? (Text.encode text ++ [0x0a]) = some (text ++ "\n") := by
    rw [← hnewline, ← Text.encode_append, Text.decode?_encode]
  have hchomp : chomp (text ++ "\n") = chomp text :=
    chomp_append text (by simp [IsBreak])
  rw [Text.encode_append, hnewline, List.append_assoc, List.singleton_append]
  simp [readLine, splitLine_append_newline (Text.newline_notMem_encode h), hdecode, hchomp]

theorem readLine_last {text : String} (h : '\n' ∉ text.toList) (hne : text ≠ "") :
    readLine { unread := Text.encode text } = (.ok (chomp text), {}) := by
  have hbytes : Text.encode text ≠ [] := fun hnil => hne (Text.encode_injective hnil)
  simp [readLine, splitLine_of_notMem (Text.newline_notMem_encode h), hbytes, Text.decode?_encode]

end Source

namespace Terminal

/-- A line is read alike behind each terminator and at the end of the input: without the carriage
returns at its end. The next line is then read from just behind the terminator. -/
theorem readLine_terminated (text : String) (rest : Bytes) (sink : Sink)
    (h : '\n' ∉ text.toList) :
    ∃ line returns,
      text.toList = line.toList ++ List.replicate returns '\r' ∧
      line.toList.getLast? ≠ some '\r' ∧
      (line = text ↔ text.toList.getLast? ≠ some '\r') ∧
      (∀ terminator ∈ ["\r\n", "\n"],
        (opening (Text.encode (text ++ terminator) ++ rest) sink).readLine =
          (.ok line, opening rest sink)) ∧
      (text ≠ "" → (opening (Text.encode text) sink).readLine = (.ok line, opening [] sink)) := by
  obtain ⟨returns, htext, hlast⟩ := exists_returns h
  refine ⟨chomp text, returns, htext, hlast, chomp_eq_self_iff h, fun terminator hmem => ?_,
    fun hne => ?_⟩
  · have hreturn : '\n' ∉ (text ++ "\r").toList := by simp [h]
    have hsource : Source.readLine { unread := Text.encode (text ++ terminator) ++ rest } =
        (.ok (chomp text), { unread := rest }) := by
      simp only [List.mem_cons, List.not_mem_nil, or_false] at hmem
      obtain rfl | rfl := hmem
      · -- The carriage return counts as one more at the end of the line.
        have hbefore : text ++ "\r\n" = text ++ "\r" ++ "\n" := by
          rw [String.append_assoc]
          rfl
        rw [hbefore, Source.readLine_newline hreturn, chomp_append text (by simp [IsBreak])]
      · exact Source.readLine_newline h rest
    rw [readLine, opening, hsource, opening]
  · rw [readLine, opening, Source.readLine_last h hne, opening]

theorem readLine_terminated_return :
    '\n' ∉ "a\r".toList ∧ ∃ line returns,
      "a\r".toList = line.toList ++ List.replicate returns '\r' ∧
      line.toList.getLast? ≠ some '\r' ∧
      (line = "a\r" ↔ "a\r".toList.getLast? ≠ some '\r') ∧
      (∀ terminator ∈ ["\r\n", "\n"],
        (opening (Text.encode ("a\r" ++ terminator) ++ Text.encode "b\n") {}).readLine =
          (.ok line, opening (Text.encode "b\n") {})) ∧
      ("a\r" ≠ "" → (opening (Text.encode "a\r") {}).readLine = (.ok line, opening [] {})) :=
  ⟨by decide, readLine_terminated "a\r" (Text.encode "b\n") {} (by decide)⟩

/-- The carriage return that a line ends in is lost with the terminator, and at the end of the input
without one. -/
theorem return_dropped :
    '\n' ∉ "a\r".toList ∧
      (opening (Text.encode ("a\r" ++ "\r\n")) {}).readLine = (.ok "a", opening [] {}) ∧
      (opening (Text.encode "a\r") {}).readLine = (.ok "a", opening [] {}) ∧ "a" ≠ "a\r" := by
  decide

end Terminal

end DurableCalc
