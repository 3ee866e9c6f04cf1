import DurableCalc.Session.Desk
import DurableCalc.Proofs.Channel.Source
import DurableCalc.Proofs.Session.Move

/-!
# Desks one ahead of the other

One desk is ahead of another where it has the same slot, has the other's output behind some of its
own, and has more to read behind what the other has to read. While the other has input left, every
move of a machine comes to the same on both, and leaves the one ahead of the other.
-/

namespace DurableCalc

open Event

namespace Desk

def opening (v : Vault) (input : Bytes) : Desk where
  terminal := { source := { unread := input } }
  vault := v

def output (d : Desk) : Bytes :=
  d.terminal.sink.written

/-- Two desks of which the second has written `front` before and has `later` to read behind all that
the first has. Their logs may differ. -/
structure Ahead (front later : Bytes) (d d' : Desk) : Prop where
  source_eq : d'.terminal.source =
    { d.terminal.source with unread := d.terminal.source.unread ++ later }
  broken_eq : d.terminal.source.broken = false
  wholeLines : later = [] ∨ WholeLines d.terminal.source.unread
  output_eq : d'.output = front ++ d.output
  sink_open : d.terminal.sink.Open ∧ d'.terminal.sink.Open
  vault_eq : d'.vault = d.vault

theorem ahead_opening (v : Vault) {part later : Bytes} (h : later = [] ∨ WholeLines part) :
    Ahead [] later (opening v part) (opening v (part ++ later)) where
  source_eq := rfl
  broken_eq := rfl
  wholeLines := h
  output_eq := rfl
  sink_open := ⟨⟨rfl, rfl⟩, ⟨rfl, rfl⟩⟩
  vault_eq := rfl

/-- Two attempts that come to the same on two such desks, and not to the end of the input. -/
inductive Alike (front later : Bytes) : Except Error α × Desk → Except Error α × Desk → Prop
  | intro {result : Except Error α} {d d' : Desk} (hresult : result ≠ .error .endOfInput)
      (hahead : Ahead front later d d') : Alike front later (result, d) (result, d')

inductive Abreast (front later : Bytes) : Turn σ Desk → Turn σ Desk → Prop
  | going {c c' : Checkpointer} {k : σ} {d d' : Desk} (hsnapshot : c'.snapshot = c.snapshot)
      (hahead : Ahead front later d d') : Abreast front later (.going c k d) (.going c' k d')
  | over {result : Except Error Unit} {c c' : Checkpointer} {d d' : Desk}
      (hresult : result ≠ .error .endOfInput) (hahead : Ahead front later d d') :
      Abreast front later (.over result c d) (.over result c' d')

variable {front later : Bytes} {d d' : Desk}

theorem alike_iff {x x' : Except Error α × Desk} : Alike front later x x' ↔
    x'.1 = x.1 ∧ x.1 ≠ .error .endOfInput ∧ Ahead front later x.2 x'.2 := by
  constructor
  · rintro ⟨hresult, hahead⟩
    exact ⟨rfl, hresult, hahead⟩
  · obtain ⟨result, d⟩ := x
    obtain ⟨result', d'⟩ := x'
    rintro ⟨rfl, hresult, hahead⟩
    exact .intro hresult hahead

theorem Ahead.readLine (h : Ahead front later d d') (hne : d.terminal.source.unread ≠ []) :
    Alike front later d.readLine d'.readLine := by
  have hread := Source.readLine_append h.broken_eq hne h.wholeLines
  rw [← h.source_eq] at hread
  obtain ⟨hline, hsource⟩ := Prod.mk.inj hread
  refine alike_iff.2 ⟨hline, Source.readLine_ne_endOfInput h.broken_eq hne, ?_⟩
  exact
    { h with
      source_eq := hsource
      broken_eq := (Source.broken_readLine d.terminal.source).trans h.broken_eq
      wholeLines := h.wholeLines.imp_right fun hlines => by
        show WholeLines d.terminal.source.readLine.2.unread
        rw [Source.unread_readLine]
        exact hlines.splitLine }

theorem Ahead.writeLine (h : Ahead front later d d') (line : String) :
    Alike front later (d.writeLine line) (d'.writeLine line) := by
  obtain ⟨hopen, hopen'⟩ := h.sink_open
  have houtput : d'.terminal.sink.written = front ++ d.terminal.sink.written := h.output_eq
  simp only [Desk.writeLine, Terminal.writeLine, hopen.writeLine_eq, hopen'.writeLine_eq]
  refine .intro (by simp [Except.mapError]) ?_
  exact
    { h with
      output_eq := by simp [output, houtput]
      sink_open := ⟨hopen.keep _, hopen'.keep _⟩ }

theorem store_eq (command : Option String) (blob : Bytes) (d : Desk) :
    (d.store command blob).1 = (d.vault.store blob).1.mapError .storage ∧
      (d.store command blob).2.vault = (d.vault.store blob).2 := ⟨rfl, rfl⟩

theorem Ahead.store (h : Ahead front later d d') (command : Option String) (blob : Bytes) :
    Alike front later (d.store command blob) (d'.store command blob) := by
  obtain ⟨hresult, hvault⟩ := store_eq command blob d
  obtain ⟨hresult', hvault'⟩ := store_eq command blob d'
  refine alike_iff.2 ⟨?_, ?_, ?_⟩
  · rw [hresult, hresult', h.vault_eq]
  · rw [hresult]
    cases (d.vault.store blob).1 <;> simp [Except.mapError]
  · exact { h with vault_eq := by rw [hvault, hvault', h.vault_eq] }

theorem Ahead.note (h : Ahead front later d d') (entry entry' : Log.Entry) :
    Ahead front later (d.note entry) (d'.note entry') :=
  { h with }

theorem Ahead.noteAll (h : Ahead front later d d') (entries : List Log.Entry) :
    Ahead front later (World.noteAll entries d) (World.noteAll entries d') := by
  induction entries generalizing d d' with
  | nil => exact h
  | cons entry entries ih => exact ih (h.note entry entry)

theorem Ahead.saveThen (h : Ahead front later d d') (s : Snapshot) (k : σ) (c c' : Checkpointer) :
    Abreast front later (Machine.saveThen s k c d) (Machine.saveThen s k c' d') := by
  have hstore := h.store s.commandName? s.encode
  have hworld (d : Desk) : World.store s.commandName? s.encode d =
      d.store s.commandName? s.encode := rfl
  simp only [Machine.saveThen_eq, Checkpointer.update_eq, hworld]
  generalize d.store s.commandName? s.encode = x at hstore ⊢
  generalize d'.store s.commandName? s.encode = x' at hstore ⊢
  cases hstore with
  | @intro result _ _ hresult hahead =>
    cases result with
    | error error => exact .over hresult hahead
    | ok _ => exact .going rfl (hahead.note _ _)

/-- A move comes to the same on both desks, unless it asks for a line where the first desk has
none. -/
theorem Ahead.carryOut (h : Ahead front later d d') {move : Move σ} (c c' : Checkpointer)
    (hdry : ∀ {tail rest}, move.Ends tail (.error .endOfInput) rest → tail = [.endOfInput])
    (hline : ∀ accept, move = .ask accept → d.terminal.source.unread ≠ []) :
    Abreast front later (Machine.carryOut move c d) (Machine.carryOut move c' d') := by
  cases move with
  | ask accept =>
    have hread := h.readLine (hline accept rfl)
    have hworld (d : Desk) : World.readLine d = d.readLine := rfl
    simp only [Machine.carryOut_eq, hworld]
    generalize d.readLine = x at hread ⊢
    generalize d'.readLine = x' at hread ⊢
    cases hread with
    | @intro result _ _ hresult hahead =>
      cases result with
      | error error => exact .over (by simpa using hresult) hahead
      | ok line =>
        cases haccept : accept line with
        | error error =>
          simp only [haccept]
          refine .over ?_ hahead
          rintro ⟨⟩
          have hends : (Move.ask accept).Ends [.read line] (.error .endOfInput) [] :=
            .misread haccept
          cases hdry hends
        | ok next =>
          simp only [haccept]
          exact hahead.saveThen next.1 next.2 c c'
  | tell entries line s k =>
    have hwrite := (h.noteAll entries).writeLine line
    have hworld (d : Desk) : World.writeLine line (World.noteAll entries d) =
        (World.noteAll entries d).writeLine line := rfl
    simp only [Machine.carryOut_eq, hworld]
    generalize (World.noteAll entries d).writeLine line = x at hwrite ⊢
    generalize (World.noteAll entries d').writeLine line = x' at hwrite ⊢
    cases hwrite with
    | @intro result _ _ hresult hahead =>
      cases result with
      | error error => exact .over hresult hahead
      | ok _ => exact hahead.saveThen s k c c'
  | save s k => exact h.saveThen s k c c'
  | conclude line =>
    have hwrite := h.writeLine line
    have hworld (d : Desk) : World.writeLine line d = d.writeLine line := rfl
    simp only [Machine.carryOut_eq, hworld]
    generalize d.writeLine line = x at hwrite ⊢
    generalize d'.writeLine line = x' at hwrite ⊢
    cases hwrite with
    | intro hresult hahead => exact .over hresult hahead
  | leave =>
    have hstore := h.store none []
    have hworld (d : Desk) : World.store none [] d = d.store none [] := rfl
    simp only [Machine.carryOut_eq, Checkpointer.clear_eq, hworld]
    generalize d.store none [] = x at hstore ⊢
    generalize d'.store none [] = x' at hstore ⊢
    cases hstore with
    | @intro result _ _ hresult hahead =>
      cases result with
      | error error => exact .over hresult hahead
      | ok _ => exact .over (by simp) ((hahead.note _ _).note _ _)
  | stop result =>
    refine .over ?_ h
    rintro rfl
    have hends : (Move.stop _ : Move σ).Ends [] (.error .endOfInput) [] := .stop
    cases hdry hends

/-- Where the first desk has no input left, the second is ahead of a new desk that has the same slot
and `later` to read. -/
theorem Ahead.opening (h : Ahead front later d d') (hnil : d.terminal.source.unread = [])
    (entry : Log.Entry) :
    Ahead (front ++ d.output) [] ((opening d.vault later).note entry) d' where
  source_eq := by
    have hsource : d'.terminal.source = { unread := later, broken := false } := by
      simp only [h.source_eq, hnil, h.broken_eq, List.nil_append]
    simp only [hsource, Desk.opening, Desk.note, List.append_nil]
  broken_eq := rfl
  wholeLines := .inl rfl
  output_eq := h.output_eq.trans (List.append_nil _).symm
  sink_open := ⟨⟨rfl, rfl⟩, h.sink_open.2⟩
  vault_eq := h.vault_eq

theorem carryOut_dry (hbroken : d.terminal.source.broken = false)
    (hnil : d.terminal.source.unread = []) (accept : String → Except Error (Snapshot × σ))
    (c : Checkpointer) :
    Machine.carryOut (.ask accept) c d = .over (.error .endOfInput) c d := by
  have hread : World.readLine d = (.error .endOfInput, d) := by
    show d.readLine = _
    rw [Desk.readLine, Terminal.readLine, Source.readLine_of_nil hbroken hnil]
  simp only [Machine.carryOut_eq, hread]

theorem vault_noteAll (entries : List Log.Entry) (d : Desk) :
    (World.noteAll entries d).vault = d.vault := by
  induction entries generalizing d with
  | nil => rfl
  | cons entry entries ih => exact ih (d.note entry)

theorem stored_of_saveThen {s : Snapshot} {k k' : σ} {c c' : Checkpointer}
    (h : Machine.saveThen s k c d = .going c' k' d') :
    d.vault.store s.encode = (.ok (), d'.vault) := by
  obtain ⟨hresult, hvault⟩ := store_eq s.commandName? s.encode d
  have hworld : World.store s.commandName? s.encode d = d.store s.commandName? s.encode := rfl
  simp only [Machine.saveThen_eq, Checkpointer.update_eq, hworld] at h
  generalize d.store s.commandName? s.encode = x at hresult hvault h
  obtain ⟨result, d₁⟩ := x
  cases result with
  | error error => cases h
  | ok _ =>
    cases h
    cases hstored : (d.vault.store s.encode).1 with
    | error error =>
      rw [hstored] at hresult
      cases hresult
    | ok _ => exact Prod.ext hstored hvault.symm

theorem vault_of_acts {move : Move σ} {s : Snapshot} {k : σ} (h : move.Acts d s k d') :
    d'.vault = d.vault := by
  cases h with
  | @ask _ line _ _ _ hread haccept =>
    have hvault : d.readLine.2.vault = d.vault := rfl
    have hworld : d.readLine = (.ok line, d') := hread
    rwa [hworld] at hvault
  | @tell entries line _ _ _ hwrite =>
    have hvault : ((World.noteAll entries d).writeLine line).2.vault = d.vault :=
      vault_noteAll entries d
    have hworld : (World.noteAll entries d).writeLine line = (.ok (), d') := hwrite
    rwa [hworld] at hvault
  | save => rfl

theorem stored_of_going {move : Move σ} {c c' : Checkpointer} {k : σ}
    (h : Machine.carryOut move c d = .going c' k d') :
    (∃ visible, move.Does visible c'.snapshot k) ∧
      d.vault.store c'.snapshot.encode = (.ok (), d'.vault) := by
  obtain ⟨d₁, hacts, hsave⟩ := Move.acts_of_going h
  refine ⟨hacts.exists_does, ?_⟩
  rw [← vault_of_acts hacts]
  exact stored_of_saveThen hsave

end Desk

end DurableCalc
