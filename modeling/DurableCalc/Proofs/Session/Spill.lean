import DurableCalc.Proofs.Channel.Sink
import DurableCalc.Proofs.Session.Lockstep
import DurableCalc.Proofs.Session.SingleLine
import DurableCalc.Proofs.Session.Sittings

/-!
# A sink that breaks

A session whose sink has room for so many bytes in all does what it does without a limit, until a
line does not fit any more. The line before has been saved by then, and the line that does not fit
has not, so that a session on the same slot starts with that line and writes all of it.
-/

namespace DurableCalc

def Move.output : Move σ → Bytes
  | .tell _ line _ _ | .conclude line => printed line
  | .ask _ | .save .. | .leave | .stop _ => []

def Turn.mapWorld (f : ω → ω) : Turn σ ω → Turn σ ω
  | .going c k w => .going c k (f w)
  | .over result c w => .over result c (f w)

namespace Desk

variable {d : Desk} {room : Nat} {line : String} {move : Move σ}

def narrow (room : Nat) (d : Desk) : Desk :=
  { d with terminal := { d.terminal with sink := d.terminal.sink.narrow room } }

structure InOrder (d : Desk) : Prop where
  broken_eq : d.terminal.source.broken = false
  sink_open : d.terminal.sink.Open
  wholeLines : WholeLines d.output

theorem readLine_narrow (room : Nat) (d : Desk) :
    (d.narrow room).readLine = (d.readLine.1, d.readLine.2.narrow room) := rfl

theorem store_narrow (command : Option String) (blob : Bytes) (room : Nat) (d : Desk) :
    (d.narrow room).store command blob =
      ((d.store command blob).1, (d.store command blob).2.narrow room) := rfl

theorem noteAll_narrow (entries : List Log.Entry) (room : Nat) (d : Desk) :
    World.noteAll entries (d.narrow room) = (World.noteAll entries d).narrow room := by
  induction entries generalizing d with
  | nil => rfl
  | cons entry entries ih => exact ih (d.note entry)

theorem terminal_noteAll (entries : List Log.Entry) (d : Desk) :
    (World.noteAll entries d).terminal = d.terminal := by
  induction entries generalizing d with
  | nil => rfl
  | cons entry entries ih => exact ih (d.note entry)

theorem writeLine_narrow (hopen : d.terminal.sink.Open)
    (hfits : (d.output ++ printed line).length ≤ room) :
    (d.narrow room).writeLine line = ((d.writeLine line).1, (d.writeLine line).2.narrow room) := by
  have hsink := hopen.writeLine_narrow hfits
  simp only [writeLine, Terminal.writeLine, narrow, hsink]

theorem saveThen_narrow (s : Snapshot) (k : σ) (c : Checkpointer) (room : Nat) (d : Desk) :
    Machine.saveThen s k c (d.narrow room) = (Machine.saveThen s k c d).mapWorld (narrow room) := by
  have hworld (d : Desk) : World.store s.commandName? s.encode d =
      d.store s.commandName? s.encode := rfl
  simp only [Machine.saveThen_eq, Checkpointer.update_eq, hworld, store_narrow]
  generalize d.store s.commandName? s.encode = attempt
  obtain ⟨result, d'⟩ := attempt
  cases result <;> rfl

/-- A move whose output fits comes to the same as on a desk without a limit. -/
theorem carryOut_narrow (hopen : d.terminal.sink.Open)
    (hfits : (d.output ++ move.output).length ≤ room) (c : Checkpointer) :
    Machine.carryOut move c (d.narrow room) =
      (Machine.carryOut move c d).mapWorld (narrow room) := by
  cases move with
  | ask accept =>
    have hworld (d : Desk) : World.readLine d = d.readLine := rfl
    simp only [Machine.carryOut_eq, hworld, readLine_narrow]
    generalize d.readLine = attempt
    obtain ⟨result, d'⟩ := attempt
    cases result with
    | error error => rfl
    | ok line =>
      dsimp only
      cases accept line with
      | error error => rfl
      | ok next => exact saveThen_narrow next.1 next.2 c room d'
  | tell entries line s k =>
    have hterminal := terminal_noteAll entries d
    have hwrite : ((World.noteAll entries d).narrow room).writeLine line = _ :=
      writeLine_narrow (hterminal ▸ hopen) (by rw [output, hterminal]; exact hfits)
    have hworld (d : Desk) : World.writeLine line d = d.writeLine line := rfl
    simp only [Machine.carryOut_eq, hworld, noteAll_narrow, hwrite]
    generalize (World.noteAll entries d).writeLine line = attempt
    obtain ⟨result, d'⟩ := attempt
    cases result with
    | error error => rfl
    | ok _ => exact saveThen_narrow s k c room d'
  | save s k => exact saveThen_narrow s k c room d
  | conclude line =>
    have hworld (d : Desk) : World.writeLine line d = d.writeLine line := rfl
    simp only [Machine.carryOut_eq, hworld, writeLine_narrow hopen hfits]
    rfl
  | leave =>
    have hworld (d : Desk) : World.store none [] d = d.store none [] := rfl
    simp only [Machine.carryOut_eq, Checkpointer.clear_eq, hworld, store_narrow]
    generalize d.store none [] = attempt
    obtain ⟨result, d'⟩ := attempt
    cases result <;> rfl
  | stop result => rfl

/-- What is left of a desk whose sink was too small for what was to be written: the sink is full,
and nothing else is touched but the log. -/
structure Spilled (room : Nat) (d : Desk) (bytes : Bytes) (d' : Desk) : Prop where
  output_eq : d'.output = (d.output ++ bytes).take room
  source_eq : d'.terminal.source = d.terminal.source
  vault_eq : d'.vault = d.vault

def fullError : Error :=
  .channel (.write "sink full")

theorem writeLine_narrow_of_lt (hle : d.output.length ≤ room)
    (hspills : room < (d.output ++ printed line).length) :
    ∃ d', (d.narrow room).writeLine line = (.error fullError, d') ∧
      d.Spilled room (printed line) d' := by
  obtain ⟨hresult, hwritten⟩ := Sink.writeLine_narrow_of_lt hle hspills
  simp only [writeLine, Terminal.writeLine, narrow]
  generalize (d.terminal.sink.narrow room).writeLine line = attempt at hresult hwritten ⊢
  obtain ⟨result, sink⟩ := attempt
  cases hresult
  exact ⟨_, rfl, hwritten, rfl, rfl⟩

/-- A move whose output does not fit fails, before it saves. -/
theorem carryOut_narrow_of_lt (hle : d.output.length ≤ room)
    (hspills : room < (d.output ++ move.output).length) (c : Checkpointer) :
    ∃ d', Machine.carryOut move c (d.narrow room) = .over (.error fullError) c d' ∧
      d.Spilled room move.output d' := by
  have hquiet (hnil : move.output = []) : False := by
    rw [hnil, List.append_nil] at hspills
    omega
  have hworld (line : String) (d : Desk) : World.writeLine line d = d.writeLine line := rfl
  cases move with
  | tell entries line s k =>
    have hterminal := terminal_noteAll entries d
    have houtput : (World.noteAll entries d).output = d.output := by
      rw [output, hterminal]
      rfl
    have hnoted : room < ((World.noteAll entries d).output ++ printed line).length :=
      houtput ▸ hspills
    obtain ⟨d', hwrite, hspilled⟩ := writeLine_narrow_of_lt (houtput ▸ hle) hnoted
    refine ⟨d', ?_, ?_⟩
    · simp only [Machine.carryOut_eq, hworld, noteAll_narrow, hwrite]
    · exact
        { output_eq := houtput ▸ hspilled.output_eq
          source_eq := by rw [hspilled.source_eq, hterminal]
          vault_eq := by rw [hspilled.vault_eq, vault_noteAll] }
  | conclude line =>
    obtain ⟨d', hwrite, hspilled⟩ := writeLine_narrow_of_lt hle hspills
    refine ⟨d', ?_, hspilled⟩
    simp only [Machine.carryOut_eq, hworld, hwrite]
  | ask accept => exact (hquiet rfl).elim
  | save s k => exact (hquiet rfl).elim
  | leave => exact (hquiet rfl).elim
  | stop result => exact (hquiet rfl).elim

theorem InOrder.of_terminal_eq {d' : Desk} (h : d.InOrder) (hterminal : d'.terminal = d.terminal) :
    d'.InOrder where
  broken_eq := hterminal ▸ h.broken_eq
  sink_open := hterminal ▸ h.sink_open
  wholeLines := by
    rw [output, hterminal]
    exact h.wholeLines

theorem InOrder.readLine (h : d.InOrder) : d.readLine.2.InOrder where
  broken_eq := (Source.broken_readLine d.terminal.source).trans h.broken_eq
  sink_open := h.sink_open
  wholeLines := h.wholeLines

theorem InOrder.output_writeLine (h : d.InOrder) (line : String) :
    (d.writeLine line).2.output = d.output ++ printed line :=
  h.sink_open.written_writeLine line

theorem InOrder.writeLine (h : d.InOrder) (line : String) : (d.writeLine line).2.InOrder where
  broken_eq := h.broken_eq
  sink_open := (h.sink_open.writeLine line).2
  wholeLines := by
    rw [h.output_writeLine]
    exact wholeLines_append_printed d.output line

/-- The terminal after a move: a line is read from it or written to it, and no more. -/
theorem terminal_carryOut (move : Move σ) (c : Checkpointer) (d : Desk) :
    (Machine.carryOut move c d).world.terminal =
      match move with
      | .ask _ => d.readLine.2.terminal
      | .tell _ line _ _ | .conclude line => (d.writeLine line).2.terminal
      | .save .. | .leave | .stop _ => d.terminal := by
  rw [Machine.observe_carryOut Desk.terminal (fun _ _ => rfl) (fun _ _ _ => rfl)]
  cases move with
  | tell entries line s k =>
    show ((World.noteAll entries d).writeLine line).2.terminal = _
    simp only [Desk.writeLine, terminal_noteAll]
  | _ => rfl

theorem InOrder.carryOut (h : d.InOrder) (move : Move σ) (c : Checkpointer) :
    (Machine.carryOut move c d).world.InOrder ∧
      (Machine.carryOut move c d).world.output = d.output ++ move.output := by
  have hterminal := terminal_carryOut move c d
  have houtput : (Machine.carryOut move c d).world.output =
      (Machine.carryOut move c d).world.terminal.sink.written := rfl
  rw [houtput, hterminal]
  cases move with
  | ask accept =>
    exact ⟨h.readLine.of_terminal_eq hterminal, (List.append_nil _).symm⟩
  | tell entries line s k =>
    exact ⟨(h.writeLine line).of_terminal_eq hterminal, h.output_writeLine line⟩
  | conclude line =>
    exact ⟨(h.writeLine line).of_terminal_eq hterminal, h.output_writeLine line⟩
  | _ => exact ⟨h.of_terminal_eq hterminal, (List.append_nil _).symm⟩

theorem inOrder_opening (v : Vault) (input : Bytes) : (opening v input).InOrder where
  broken_eq := rfl
  sink_open := ⟨rfl, rfl⟩
  wholeLines := .inl rfl

variable {M : Machine σ} {c : Checkpointer} {k : σ}

theorem InOrder.output_prefix (h : d.InOrder) (M : Machine σ) (c : Checkpointer) (k : σ) :
    d.output ++ (M.next c.snapshot k).output <+: (M.run c k d).2.2.output := by
  fun_induction Machine.run M c k d with
  | case1 c k d result c' d' hover =>
    obtain ⟨-, houtput⟩ := h.carryOut (M.next c.snapshot k) c
    rw [hover] at houtput
    exact (congrArg (· <+: d'.output) houtput).mp List.prefix_rfl
  | case2 c k d c' k' d' hgoing ih =>
    obtain ⟨horder, houtput⟩ := h.carryOut (M.next c.snapshot k) c
    rw [hgoing] at horder houtput
    have houtput' : d'.output = d.output ++ (M.next c.snapshot k).output := houtput
    rw [← houtput']
    exact (List.prefix_append _ _).trans (ih horder)

/-- A configuration with room for what was written so far, but not for the output of its move. -/
structure Overflows (M : Machine σ) (room : Nat) (c : Checkpointer) (k : σ) (d : Desk) :
    Prop where
  inOrder : d.InOrder
  length_le : d.output.length ≤ room
  lt_length : room < (d.output ++ (M.next c.snapshot k).output).length

/-- A run with a limit is the run without one, as long as the output fits; at last it comes to a
configuration in which the output does not fit any more, or to the same end. -/
theorem InOrder.run_narrow (h : d.InOrder) (hle : d.output.length ≤ room) (M : Machine σ)
    (c : Checkpointer) (k : σ) :
    ((M.run c k d).2.2.output.length ≤ room ∧
      M.run c k (d.narrow room) =
        ((M.run c k d).1, (M.run c k d).2.1, (M.run c k d).2.2.narrow room)) ∨
    ∃ c₁ k₁ d₁, M.Passes c k d c₁ k₁ d₁ ∧ Overflows M room c₁ k₁ d₁ ∧
      M.run c k (d.narrow room) = M.run c₁ k₁ (d₁.narrow room) := by
  fun_induction Machine.run M c k d with
  | case1 c k d result c' d' hover =>
    by_cases hfits : (d.output ++ (M.next c.snapshot k).output).length ≤ room
    · left
      obtain ⟨-, houtput⟩ := h.carryOut (M.next c.snapshot k) c
      have hnarrow := carryOut_narrow h.sink_open hfits c
      rw [hover] at houtput hnarrow
      have houtput' : d'.output = d.output ++ (M.next c.snapshot k).output := houtput
      exact ⟨houtput' ▸ hfits, Machine.run_over hnarrow⟩
    · exact .inr ⟨c, k, d, .start c k d, ⟨h, hle, by omega⟩, rfl⟩
  | case2 c k d c' k' d' hgoing ih =>
    by_cases hfits : (d.output ++ (M.next c.snapshot k).output).length ≤ room
    · obtain ⟨horder, houtput⟩ := h.carryOut (M.next c.snapshot k) c
      have hnarrow := carryOut_narrow h.sink_open hfits c
      rw [hgoing] at horder houtput hnarrow
      have houtput' : d'.output = d.output ++ (M.next c.snapshot k).output := houtput
      have hstep : M.run c k (d.narrow room) = M.run c' k' (d'.narrow room) :=
        Machine.run_going hnarrow
      rw [hstep]
      refine (ih horder (houtput' ▸ hfits)).imp_right ?_
      rintro ⟨c₁, k₁, d₁, hpasses, hoverflows, hrun⟩
      exact ⟨c₁, k₁, d₁, .going hgoing hpasses, hoverflows, hrun⟩
    · exact .inr ⟨c, k, d, .start c k d, ⟨h, hle, by omega⟩, rfl⟩

theorem Overflows.run_narrow (h : Overflows M room c k d) :
    ∃ d', M.run c k (d.narrow room) = (.error fullError, c, d') ∧
      d.Spilled room (M.next c.snapshot k).output d' := by
  obtain ⟨d', hover, hspilled⟩ := carryOut_narrow_of_lt h.length_le h.lt_length c
  exact ⟨d', Machine.run_over hover, hspilled⟩

end Desk

namespace Session

open Event

variable {maxCount : UInt32} {r : Registry} {s : Snapshot} {c c' : Checkpointer}
  {k k' : Option Job} {d d' : Desk} {room : Nat}

/-- In every configuration of a run, the snapshot can be taken up again from the slot. -/
theorem kept_of_passes (h : (machine r).Passes c k d c' k' d')
    (hkept : c.snapshot.Kept d.vault) (hsettled : Settled r c.snapshot k) :
    c'.snapshot.Kept d'.vault ∧ Settled r c'.snapshot k' := by
  induction h with
  | start c k d => exact ⟨hkept, hsettled⟩
  | going hgoing _ ih =>
    obtain ⟨hkept₁, hsettled₁⟩ := kept_of_going hkept hsettled hgoing
    exact ih hkept₁ hsettled₁

/-- A move of a standard session writes one line or nothing. -/
theorem exists_output_eq (hfault : s.fault? = none)
    (hne : (next (.standard maxCount) s none).output ≠ []) :
    ∃ line, (next (.standard maxCount) s none).output = printed line ∧ SingleLine line := by
  cases hnext : next (.standard maxCount) s none with
  | tell entries line s' k =>
    have hdoes : (next (.standard maxCount) s none).Does [.wrote line] s' k := hnext ▸ .tell
    have htransition := (act_of_does hdoes).1.transition hfault
    exact ⟨line, rfl, htransition.singleLine List.mem_cons_self⟩
  | conclude line => exact absurd hnext (next_ne_conclude line)
  | _ =>
    rw [hnext] at hne
    exact absurd rfl hne

/-- A session on a desk in order comes to what a session on its slot and on the input that is left
comes to, behind the output that there was before. -/
theorem run_reopened (h : d.InOrder) (hkept : c.snapshot.Kept d.vault)
    (hsettled : Settled r c.snapshot k) :
    let rest := run r (Desk.opening d.vault d.terminal.source.unread)
    let whole := (machine r).run c k d
    whole.1 = rest.1 ∧ rest.2.Ahead d.output [] whole.2.2 := by
  intro rest whole
  obtain ⟨c₁, hsnapshot, hresume⟩ := resume_of_kept hkept
  have hrest : rest = _ := run_of_resume (hresume d.terminal.source.unread)
  have hahead : ((Desk.opening d.vault d.terminal.source.unread).note c₁.startEntry).Ahead
      d.output [] d :=
    { source_eq := by
        have hsource : d.terminal.source =
            { unread := d.terminal.source.unread, broken := false } := by
          rw [← h.broken_eq]
        rw [List.append_nil]
        exact hsource
      broken_eq := rfl
      wholeLines := .inl rfl
      output_eq := (List.append_nil _).symm
      sink_open := ⟨⟨rfl, rfl⟩, h.sink_open⟩
      vault_eq := rfl }
  rw [hrest]
  exact run_ahead_nil hahead hsnapshot.symm trivial (hsnapshot ▸ hsettled) (hsnapshot ▸ hkept)

/-- Where the output of a standard session does not fit any more, a line starts. -/
theorem lineStart_of_overflows (h : Desk.Overflows (machine (.standard maxCount)) room c k d)
    (hfault : c.snapshot.fault? = none) (hsettled : Settled (.standard maxCount) c.snapshot k) :
    lineStart ((machine (.standard maxCount)).run c k d).2.2.output room = d.output.length := by
  have hmove : (machine (.standard maxCount)).next c.snapshot k =
      next (.standard maxCount) c.snapshot none := by
    show next (.standard maxCount) c.snapshot k = _
    exact next_of_settled hsettled
  obtain ⟨more, hmore⟩ := h.inOrder.output_prefix (machine (.standard maxCount)) c k
  have hle := h.length_le
  have hlt := h.lt_length
  rw [hmove] at hmore hlt
  have hne : (next (.standard maxCount) c.snapshot none).output ≠ [] := by
    intro hnil
    rw [hnil, List.append_nil] at hlt
    omega
  obtain ⟨line, hline, hsingle⟩ := exists_output_eq hfault hne
  rw [hline, printed] at hmore hlt
  have hinside : room ≤ d.output.length + (Text.encode line).length := by
    simp only [List.length_append, List.length_singleton] at hlt
    omega
  have hbytes : d.output ++ (Text.encode line ++ [0x0a]) ++ more =
      d.output ++ (Text.encode line ++ ([0x0a] ++ more)) := by
    simp only [List.append_assoc]
  rw [← hmore, hbytes]
  exact lineStart_append h.inOrder.wholeLines hsingle _ hle hinside

/-- Where the output of a standard session does not fit any more, a run with a limit loses nothing
that a session on what it leaves does not make up for. -/
theorem exists_of_overflows (h : Desk.Overflows (machine (.standard maxCount)) room c k d)
    (hkept : c.snapshot.Kept d.vault) (hsettled : Settled (.standard maxCount) c.snapshot k)
    {result : Except Error Unit} {whole : Desk}
    (hwhole : (machine (.standard maxCount)).run c k d = (result, c', whole)) :
    ∃ d', (machine (.standard maxCount)).run c k (d.narrow room) = (.error Desk.fullError, c, d') ∧
      d'.output = whole.output.take room ∧
      let rest := run (.standard maxCount) (Desk.opening d'.vault d'.terminal.source.unread)
      rest.2.output = whole.output.drop (lineStart whole.output room) ∧ rest.1 = result ∧
        rest.2.vault = whole.vault := by
  have ⟨blob, _, hrestore⟩ := hkept
  have hstart := lineStart_of_overflows h (Snapshot.fault?_of_restore hrestore) hsettled
  have hprefix := h.inOrder.output_prefix (machine (.standard maxCount)) c k
  obtain ⟨hresult, hahead⟩ := run_reopened h.inOrder hkept hsettled
  rw [hwhole] at hstart hprefix hresult hahead
  obtain ⟨d', hrun, hspilled⟩ := h.run_narrow
  refine ⟨d', hrun, ?_, ?_⟩
  · obtain ⟨more, hmore⟩ := hprefix
    rw [hspilled.output_eq, ← hmore, List.take_append_of_le_length h.lt_length.le]
  · have houtput := hahead.output_eq
    rw [hspilled.vault_eq, hspilled.source_eq]
    refine ⟨?_, hresult.symm, hahead.vault_eq.symm⟩
    rw [hstart, houtput, List.drop_left]

theorem resume_desk (d : Desk) : (∃ error, Checkpointer.resume d = (.error error, d)) ∨
    ∃ c, Checkpointer.resume d = (.ok c, d.note c.startEntry) ∧ c.snapshot.Kept d.vault := by
  have hworld : World.load d = (d.vault.load.mapError .storage, d) := rfl
  cases hload : d.vault.load with
  | error error =>
    refine .inl ⟨.storage error, ?_⟩
    simp only [Checkpointer.resume_eq, hworld, hload, Except.mapError]
  | ok blob =>
    cases hblob : Checkpointer.ofBlob blob with
    | error error =>
      refine .inl ⟨.snapshot (.decode error), ?_⟩
      simp only [Checkpointer.resume_eq, hworld, hload, Except.mapError, hblob]
    | ok c =>
      refine .inr ⟨c, ?_, blob, hload, ?_⟩
      · simp only [Checkpointer.resume_eq, hworld, hload, Except.mapError, hblob]
        rfl
      · rw [← snapshot_ofBlob, hblob]
        rfl

theorem resume_narrow (room : Nat) (d : Desk) :
    Checkpointer.resume (d.narrow room) =
      ((Checkpointer.resume d).1, (Checkpointer.resume d).2.narrow room) := by
  have hworld (d : Desk) : World.load d = d.load := rfl
  have hload : (d.narrow room).load = (d.load.1, d.load.2.narrow room) := rfl
  simp only [Checkpointer.resume_eq, hworld, hload]
  generalize d.load = attempt
  obtain ⟨result, d'⟩ := attempt
  cases result with
  | error error => rfl
  | ok blob =>
    dsimp only
    cases Checkpointer.ofBlob blob <;> rfl

/-- A sink that breaks after so many bytes loses no output. If the output of a session is no longer
than that, it comes to the same. If it is longer, the session stops with an error of its channel,
the sink holds as many bytes of the output as it had room for, and a session on the same slot and on
the rest of the input writes the output from the first line on that was not accepted completely, and
comes to the same result and the same slot. -/
theorem sink_loses_nothing (maxCount : UInt32) (v : Vault) (input : Bytes) (room : Nat) :
    let r := Registry.standard maxCount
    let whole := run r (Desk.opening v input)
    let first := run r ((Desk.opening v input).narrow room)
    let rest := run r (Desk.opening first.2.vault first.2.terminal.source.unread)
    (whole.2.output.length ≤ room →
      first.1 = whole.1 ∧ first.2.output = whole.2.output ∧ first.2.vault = whole.2.vault) ∧
    (room < whole.2.output.length →
      first.1 = .error (.channel (.write "sink full")) ∧
      first.2.output = whole.2.output.take room ∧
      rest.2.output = whole.2.output.drop (lineStart whole.2.output room) ∧
      rest.1 = whole.1 ∧ rest.2.vault = whole.2.vault) := by
  intro r whole first rest
  have hnarrow := resume_narrow room (Desk.opening v input)
  rcases resume_desk (Desk.opening v input) with ⟨error, hresume⟩ | ⟨c, hresume, hkept⟩
  · rw [hresume] at hnarrow
    have hwhole : whole = _ := run_of_resume_error hresume
    have hfirst : first = _ := run_of_resume_error hnarrow
    rw [hfirst, hwhole]
    exact ⟨fun _ => ⟨rfl, rfl, rfl⟩, fun hlt => absurd hlt room.not_lt_zero⟩
  · rw [hresume] at hnarrow
    have hwhole : whole = _ := run_of_resume hresume
    have hfirst : first = _ := run_of_resume hnarrow
    have horder : ((Desk.opening v input).note c.startEntry).InOrder :=
      (Desk.inOrder_opening v input).of_terminal_eq rfl
    rcases horder.run_narrow room.zero_le (machine r) c none with
      ⟨hfits, hrun⟩ | ⟨c₁, k₁, d₁, hpasses, hover, hrun⟩
    · have hresult : first.1 = whole.1 := by rw [hfirst, hwhole, hrun]
      have hdesk : first.2 = whole.2.narrow room := by rw [hfirst, hwhole, hrun]
      have hfits : whole.2.output.length ≤ room := by rw [hwhole]; exact hfits
      refine ⟨fun _ => ⟨hresult, ?_, ?_⟩, fun hlt => absurd hfits (Nat.not_le_of_lt hlt)⟩
      · rw [hdesk]
        rfl
      · rw [hdesk]
        rfl
    · obtain ⟨hkept₁, hsettled₁⟩ := kept_of_passes hpasses hkept trivial
      have hpassed : (machine r).run c₁ k₁ d₁ =
          (whole.1, ((machine r).run c₁ k₁ d₁).2.1, whole.2) := by
        rw [hwhole, Machine.run_of_passes hpasses]
      have hlonger := (hover.inOrder.output_prefix (machine r) c₁ k₁).length_le
      rw [hpassed] at hlonger
      obtain ⟨d', hspill, htake, hrest⟩ := exists_of_overflows hover hkept₁ hsettled₁ hpassed
      have hstopped : first = (.error Desk.fullError, d') := by rw [hfirst, hrun, hspill]
      have hlt : room < whole.2.output.length := hover.lt_length.trans_le hlonger
      refine ⟨fun hle => absurd hlt (Nat.not_lt_of_le hle), fun _ => ?_⟩
      have hresult : first.1 = .error Desk.fullError := congrArg Prod.fst hstopped
      have houtput : first.2.output = d'.output := congrArg (fun x => x.2.output) hstopped
      have hagain : rest = run r (Desk.opening d'.vault d'.terminal.source.unread) :=
        congrArg (fun x => run r (Desk.opening x.2.vault x.2.terminal.source.unread)) hstopped
      rw [hresult, houtput, hagain]
      exact ⟨rfl, htake, hrest⟩

end Session

end DurableCalc
