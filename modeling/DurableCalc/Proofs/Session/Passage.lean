import DurableCalc.Proofs.Session.Course

/-!
# Passages

What a session does in a rehearsal: it follows a course from the snapshot in its slot, until it ends
by itself or a refused call breaks it off. Everything that the rehearsal shows afterwards is told by
the events: the lines that are left, the blob in the slot and the calls that were made.
-/

namespace DurableCalc

open Event

namespace Rehearsal

def opening (blob : Bytes) (lines : List String)
    (refuseCall : Nat → Option (Moment × String) := fun _ => none)
    (refuseStore : Nat → Option String := fun _ => none) : Rehearsal where
  lines
  vault := { slot := .memory blob, refuseStore }
  refuseCall

/-- How a rehearsal with a blob in memory stands after some events. -/
structure Follows (w : Rehearsal) (trace : List Event) (w' : Rehearsal) : Prop where
  events_eq : w'.events = w.events ++ trace
  lines_eq : w.lines = linesRead trace ++ w'.lines
  slot_eq : ∃ blob, w.vault.slot = .memory blob ∧ w'.vault.slot = .memory (lastSaved blob trace)
  refuseCall_eq : w'.refuseCall = w.refuseCall
  refuseStore_eq : w'.vault.refuseStore = w.vault.refuseStore
  refuseLoad_eq : w'.vault.refuseLoad = w.vault.refuseLoad
  channelCalls_le : w.channelCalls ≤ w'.channelCalls

variable {w w' w'' : Rehearsal} {trace trace' : List Event}

theorem Follows.slot {blob : Bytes} (h : w.Follows trace w') (hslot : w.vault.slot = .memory blob) :
    w'.vault.slot = .memory (lastSaved blob trace) := by
  obtain ⟨blob', hblob', hslot'⟩ := h.slot_eq
  rw [hslot] at hblob'
  cases hblob'
  exact hslot'

theorem Follows.refl {blob : Bytes} (hslot : w.vault.slot = .memory blob) : w.Follows [] w where
  events_eq := by simp
  lines_eq := rfl
  slot_eq := ⟨blob, hslot, hslot⟩
  refuseCall_eq := rfl
  refuseStore_eq := rfl
  refuseLoad_eq := rfl
  channelCalls_le := Nat.le_refl _

theorem Follows.trans (h : w.Follows trace w') (h' : w'.Follows trace' w'') :
    w.Follows (trace ++ trace') w'' where
  events_eq := by rw [h'.events_eq, h.events_eq, List.append_assoc]
  lines_eq := by rw [h.lines_eq, h'.lines_eq, linesRead_append, List.append_assoc]
  slot_eq := by
    obtain ⟨blob, hblob, hslot⟩ := h.slot_eq
    exact ⟨blob, hblob, by rw [h'.slot hslot, lastSaved_append]⟩
  refuseCall_eq := h'.refuseCall_eq.trans h.refuseCall_eq
  refuseStore_eq := h'.refuseStore_eq.trans h.refuseStore_eq
  refuseLoad_eq := h'.refuseLoad_eq.trans h.refuseLoad_eq
  channelCalls_le := Nat.le_trans h.channelCalls_le h'.channelCalls_le

end Rehearsal

/-- A fault that the refusals of a rehearsal account for, between two of its states. -/
def Fault.Strikes (w w' : Rehearsal) : Fault → Prop
  | .call moment reason =>
    ∃ n, w.channelCalls ≤ n ∧ n < w'.channelCalls ∧ w.refuseCall n = some (moment, reason)
  | .store reason => ∃ n, w.vault.refuseStore n = some reason

theorem Fault.Strikes.of_follows {fault : Fault} {w w' w'' : Rehearsal} {trace : List Event}
    (h : fault.Strikes w' w'') (hfollows : w.Follows trace w') : fault.Strikes w w'' := by
  cases fault with
  | call moment reason =>
    obtain ⟨n, hle, hlt, hrefuse⟩ := h
    refine ⟨n, Nat.le_trans hfollows.channelCalls_le hle, hlt, ?_⟩
    rw [← hfollows.refuseCall_eq, hrefuse]
  | store reason =>
    obtain ⟨n, hrefuse⟩ := h
    exact ⟨n, by rw [← hfollows.refuseStore_eq, hrefuse]⟩

namespace Rehearsal

variable {w : Rehearsal} {blob : Bytes}

inductive Reads (w : Rehearsal) : Except Error String × Rehearsal → Prop
  | line {line : String} {w' : Rehearsal} (hfollows : w.Follows [.read line] w') :
      Reads w (.ok line, w')
  | dry {w' : Rehearsal} (hfollows : w.Follows [.endOfInput] w') (hlines : w'.lines = []) :
      Reads w (.error .endOfInput, w')
  | broken {fault : Fault} {trace : List Event} {w' : Rehearsal} (hfault : fault.OnRead trace)
      (hfollows : w.Follows trace w') (hstrikes : fault.Strikes w w') :
      Reads w (.error fault.error, w')

inductive Writes (w : Rehearsal) (line : String) : Except Error Unit × Rehearsal → Prop
  | done {w' : Rehearsal} (hfollows : w.Follows [.wrote line] w') : Writes w line (.ok (), w')
  | broken {fault : Fault} {trace : List Event} {w' : Rehearsal}
      (hfault : fault.OnWrite line trace) (hfollows : w.Follows trace w')
      (hstrikes : fault.Strikes w w') : Writes w line (.error fault.error, w')

inductive Stores (w : Rehearsal) (blob : Bytes) : Except Error Unit × Rehearsal → Prop
  | done {w' : Rehearsal} (hfollows : w.Follows [.saved blob] w') : Stores w blob (.ok (), w')
  | broken {reason : String} {w' : Rehearsal} (hfollows : w.Follows [.saveRefused] w')
      (hstrikes : (Fault.store reason).Strikes w w') :
      Stores w blob (.error (Fault.store reason).error, w')

theorem follows_countCall (hslot : w.vault.slot = .memory blob) : w.Follows [] w.countCall where
  events_eq := by simp [countCall, events]
  lines_eq := rfl
  slot_eq := ⟨blob, hslot, hslot⟩
  refuseCall_eq := rfl
  refuseStore_eq := rfl
  refuseLoad_eq := rfl
  channelCalls_le := Nat.le_succ _

theorem follows_record (event : Event) (hslot : w.vault.slot = .memory blob)
    (hlines : linesRead [event] = []) (hsaved : lastSaved blob [event] = blob) :
    w.Follows [event] (w.record event) where
  events_eq := by simp [record, events]
  lines_eq := by rw [hlines]; rfl
  slot_eq := ⟨blob, hslot, by rw [hsaved]; exact hslot⟩
  refuseCall_eq := rfl
  refuseStore_eq := rfl
  refuseLoad_eq := rfl
  channelCalls_le := Nat.le_refl _

inductive Takes (w : Rehearsal) : Except Error String × Rehearsal → Prop
  | line {line : String} {w' : Rehearsal} (hfollows : w.Follows [.read line] w') :
      Takes w (.ok line, w')
  | dry {w' : Rehearsal} (hfollows : w.Follows [.endOfInput] w') (hlines : w'.lines = []) :
      Takes w (.error .endOfInput, w')

theorem takes_takeLine (hslot : w.vault.slot = .memory blob) : w.Takes w.takeLine := by
  unfold takeLine
  split
  · rename_i hlines
    exact .dry (follows_record .endOfInput hslot rfl rfl) hlines
  · rename_i line rest hlines
    refine .line ?_
    exact
      { events_eq := by simp [record, events]
        lines_eq := by rw [hlines]; rfl
        slot_eq := ⟨blob, hslot, hslot⟩
        refuseCall_eq := rfl
        refuseStore_eq := rfl
        refuseLoad_eq := rfl
        channelCalls_le := Nat.le_refl _ }

/-- A call that is counted and refused accounts for its fault. -/
theorem strikes_of_refuseCall {moment : Moment} {reason : String} {w' : Rehearsal}
    (hrefuse : w.refuseCall w.channelCalls = some (moment, reason))
    {trace : List Event} (hfollows : w.countCall.Follows trace w') :
    (Fault.call moment reason).Strikes w w' :=
  ⟨w.channelCalls, Nat.le_refl _, hfollows.channelCalls_le, hrefuse⟩

theorem reads_readLine (hslot : w.vault.slot = .memory blob) : w.Reads w.readLine := by
  have hcount := follows_countCall hslot
  have hslot' : w.countCall.vault.slot = .memory blob := hslot
  have htake := takes_takeLine hslot'
  unfold readLine
  split
  · cases htaken : w.countCall.takeLine with
    | mk result w' =>
      rw [htaken] at htake
      cases htake with
      | line hfollows => exact .line (hcount.trans hfollows)
      | dry hfollows hlines => exact .dry (hcount.trans hfollows) hlines
  · rename_i reason hrefuse
    have hrecord := follows_record .readRefused hslot' rfl rfl
    exact .broken .before (hcount.trans hrecord) (strikes_of_refuseCall hrefuse hrecord)
  · rename_i reason hrefuse
    cases htaken : w.countCall.takeLine with
    | mk result w' =>
      rw [htaken] at htake
      cases htake with
      | @line line _ hfollows =>
        obtain ⟨_, _, hslot''⟩ := hfollows.slot_eq
        have hrecord := hfollows.trans (follows_record .readRefused hslot'' rfl rfl)
        exact .broken (.after line) (hcount.trans hrecord) (strikes_of_refuseCall hrefuse hrecord)
      | dry hfollows _ =>
        obtain ⟨_, _, hslot''⟩ := hfollows.slot_eq
        have hrecord := hfollows.trans (follows_record .readRefused hslot'' rfl rfl)
        exact .broken .dry (hcount.trans hrecord) (strikes_of_refuseCall hrefuse hrecord)

theorem writes_writeLine (hslot : w.vault.slot = .memory blob) (line : String) :
    w.Writes line (w.writeLine line) := by
  have hcount := follows_countCall hslot
  have hslot' : w.countCall.vault.slot = .memory blob := hslot
  unfold writeLine
  split
  · exact .done (hcount.trans (follows_record (.wrote line) hslot' rfl rfl))
  · rename_i reason hrefuse
    have hrecord := follows_record .writeRefused hslot' rfl rfl
    exact .broken .before (hcount.trans hrecord) (strikes_of_refuseCall hrefuse hrecord)
  · rename_i reason hrefuse
    have hwrote := follows_record (.wrote line) hslot' rfl rfl
    have hrecord := hwrote.trans (follows_record .writeRefused hslot' rfl rfl)
    exact .broken .after (hcount.trans hrecord) (strikes_of_refuseCall hrefuse hrecord)

theorem stores_store (hslot : w.vault.slot = .memory blob) (saved : Bytes) :
    w.Stores saved (w.store saved) := by
  cases hrefuse : w.vault.refuseStore w.vault.storeCalls with
  | some reason =>
    have hstore : w.store saved = (.error (Fault.store reason).error,
        { w with
          vault := { w.vault with storeCalls := w.vault.storeCalls + 1 }
          newest := .saveRefused :: w.newest }) := by
      simp [store, Vault.store, hrefuse, Event.ofStore?, Except.mapError, Fault.error]
    rw [hstore]
    refine .broken ?_ ⟨_, hrefuse⟩
    exact
      { events_eq := by simp [events]
        lines_eq := rfl
        slot_eq := ⟨blob, hslot, hslot⟩
        refuseCall_eq := rfl
        refuseStore_eq := rfl
        refuseLoad_eq := rfl
        channelCalls_le := Nat.le_refl _ }
  | none =>
    have hstore : w.store saved = (.ok (),
        { w with
          vault :=
            { w.vault with storeCalls := w.vault.storeCalls + 1, slot := .memory saved }
          newest := .saved saved :: w.newest }) := by
      simp [store, Vault.store, hrefuse, hslot, Slot.write, Event.ofStore?, Except.mapError]
    rw [hstore]
    refine .done ?_
    exact
      { events_eq := by simp [events]
        lines_eq := rfl
        slot_eq := ⟨blob, hslot, rfl⟩
        refuseCall_eq := rfl
        refuseStore_eq := rfl
        refuseLoad_eq := rfl
        channelCalls_le := Nat.le_refl _ }

@[simp] theorem noteAll_eq (entries : List Log.Entry) (w : Rehearsal) :
    World.noteAll entries w = w := by
  induction entries with
  | nil => rfl
  | cons entry entries ih => exact ih

inductive Stops (w : Rehearsal) (move : Move σ) : Except Error Unit → Rehearsal → Prop
  | ended {trace : List Event} {result : Except Error Unit} {w' : Rehearsal}
      (hend : move.Ends trace result w'.lines) (hfollows : w.Follows trace w') :
      Stops w move result w'
  | broken {fault : Fault} {trace : List Event} {w' : Rehearsal} (hbreak : move.Breaks fault trace)
      (hfollows : w.Follows trace w') (hstrikes : fault.Strikes w w') :
      Stops w move (.error fault.error) w'

theorem Stops.follows {w w' : Rehearsal} {move : Move σ} {result : Except Error Unit}
    (h : w.Stops move result w') : ∃ trace, w.Follows trace w' := by
  cases h with
  | ended hend hfollows => exact ⟨_, hfollows⟩
  | broken hbreak hfollows hstrikes => exact ⟨_, hfollows⟩

inductive Turns (w : Rehearsal) (move : Move σ) : Turn σ Rehearsal → Prop
  | going {c : Checkpointer} {k : σ} {visible : List Event} {w' : Rehearsal}
      (hdoes : move.Does visible c.snapshot k)
      (hfollows : w.Follows (visible ++ [.saved c.snapshot.encode]) w') :
      Turns w move (.going c k w')
  | stopped {result : Except Error Unit} {c : Checkpointer} {w' : Rehearsal}
      (hstops : w.Stops move result w') : Turns w move (.over result c w')

variable {move : Move σ}

theorem turns_saveThen {w₁ : Rehearsal} {s : Snapshot} {k : σ} {visible : List Event}
    (hdoes : move.Does visible s k) (hfollows : w.Follows visible w₁) (c : Checkpointer) :
    w.Turns move (Machine.saveThen s k c w₁) := by
  obtain ⟨_, _, hslot⟩ := hfollows.slot_eq
  have hstore := stores_store hslot s.encode
  have hworld : World.store s.commandName? s.encode w₁ = w₁.store s.encode := rfl
  simp only [Machine.saveThen_eq, Checkpointer.update_eq, hworld]
  generalize w₁.store s.encode = attempt at hstore ⊢
  cases hstore with
  | done hsaved => exact .going hdoes (hfollows.trans hsaved)
  | broken hrefused hstrikes =>
    exact .stopped (.broken (.save hdoes) (hfollows.trans hrefused) (hstrikes.of_follows hfollows))

/-- A rehearsal shows of a move what the move does, how it ends, or how it is broken off. -/
theorem turns_carryOut (hslot : w.vault.slot = .memory blob) (move : Move σ) (c : Checkpointer) :
    w.Turns move (Machine.carryOut move c w) := by
  cases move with
  | ask accept =>
    have hread := reads_readLine hslot
    have hworld : World.readLine w = w.readLine := rfl
    simp only [Machine.carryOut_eq, hworld]
    generalize w.readLine = attempt at hread ⊢
    cases hread with
    | @line line w' hfollows =>
      cases haccept : accept line with
      | error error =>
        simp only [haccept]
        exact .stopped (.ended (.misread haccept) hfollows)
      | ok next =>
        simp only [haccept]
        exact turns_saveThen (.ask haccept) hfollows c
    | dry hfollows hlines => exact .stopped (.ended (hlines ▸ .dry) hfollows)
    | broken hfault hfollows hstrikes => exact .stopped (.broken (.ask hfault) hfollows hstrikes)
  | tell entries line s k =>
    have hwrite := writes_writeLine hslot line
    have hworld : World.writeLine line (World.noteAll entries w) = w.writeLine line := by
      rw [noteAll_eq]
      rfl
    simp only [Machine.carryOut_eq, hworld]
    generalize w.writeLine line = attempt at hwrite ⊢
    cases hwrite with
    | done hfollows => exact turns_saveThen .tell hfollows c
    | broken hfault hfollows hstrikes => exact .stopped (.broken (.tell hfault) hfollows hstrikes)
  | save s k => exact turns_saveThen .save (.refl hslot) c
  | conclude line =>
    have hwrite := writes_writeLine hslot line
    have hworld : World.writeLine line w = w.writeLine line := rfl
    simp only [Machine.carryOut_eq, hworld]
    generalize w.writeLine line = attempt at hwrite ⊢
    cases hwrite with
    | done hfollows => exact .stopped (.ended .conclude hfollows)
    | broken hfault hfollows hstrikes =>
      exact .stopped (.broken (.conclude hfault) hfollows hstrikes)
  | leave =>
    have hstore := stores_store hslot []
    have hworld : World.store none [] w = w.store [] := rfl
    simp only [Machine.carryOut_eq, Checkpointer.clear_eq, hworld]
    generalize w.store [] = attempt at hstore ⊢
    cases hstore with
    | done hfollows => exact .stopped (.ended .leave hfollows)
    | broken hfollows hstrikes => exact .stopped (.broken .leave hfollows hstrikes)
  | stop result => exact .stopped (.ended .stop (.refl hslot))

end Rehearsal

namespace Session

variable {r : Registry} {s : Snapshot} {w w' : Rehearsal} {blob : Bytes}
  {result : Except Error Unit}

/-- What a session does in a rehearsal that starts from a snapshot: it follows a course and then
stops, by itself or by a fault. -/
def Passage (r : Registry) (s : Snapshot) (w : Rehearsal) (result : Except Error Unit)
    (w' : Rehearsal) : Prop :=
  ∃ trace s' w₁, Course r s trace s' ∧ w.Follows trace w₁ ∧ w₁.Stops (next r s' none) result w'

/-- A move that goes on is an act, and what it leads to can go on in the same way. -/
theorem act_of_going {c c' : Checkpointer} {k k' : Option Job}
    (hslot : w.vault.slot = .memory blob) (hsettled : Settled r c.snapshot k)
    (hgoing : Machine.carryOut (next r c.snapshot k) c w = .going c' k' w') :
    ∃ visible, Act r c.snapshot visible c'.snapshot ∧
      w.Follows (visible ++ [.saved c'.snapshot.encode]) w' ∧ Settled r c'.snapshot k' := by
  have hturns := Rehearsal.turns_carryOut hslot (next r c.snapshot k) c
  rw [hgoing, next_of_settled hsettled] at hturns
  cases hturns with
  | @going _ _ visible _ hdoes hfollows =>
    obtain ⟨hact, hsettled'⟩ := act_of_does hdoes
    exact ⟨visible, hact, hfollows, hsettled'⟩

theorem passage_machine (hslot : w.vault.slot = .memory blob) (c : Checkpointer) (k : Option Job)
    (hsettled : Settled r c.snapshot k) :
    Passage r c.snapshot w ((machine r).run c k w).1 ((machine r).run c k w).2.2 := by
  -- The moves are taken one at a time, and the control state is settled after each of them.
  fun_induction Machine.run (machine r) c k w generalizing blob with
  | case1 c k w result c' w' hover =>
    have hturns := Rehearsal.turns_carryOut hslot (next r c.snapshot k) c
    have hmove : Machine.carryOut (next r c.snapshot k) c w = .over result c' w' := hover
    rw [hmove, next_of_settled hsettled] at hturns
    cases hturns with
    | stopped hstops => exact ⟨[], c.snapshot, w, .refl _, .refl hslot, hstops⟩
  | case2 c k w c' k' w' hgoing ih =>
    obtain ⟨visible, hact, hfollows, hsettled'⟩ := act_of_going hslot hsettled hgoing
    obtain ⟨trace, s', w₁, hcourse, hfollows', hstops⟩ := ih (hfollows.slot hslot) hsettled'
    have hthrough := hfollows.trans hfollows'
    rw [List.append_assoc] at hthrough
    exact ⟨_, s', w₁, .cons hact hcourse, hthrough, hstops⟩

theorem load_eq (hload : w.vault.load = .ok blob) : World.load w = (.ok blob, w) := by
  show w.load = _
  rw [Rehearsal.load, hload]
  rfl

theorem resume_of_load (hload : w.vault.load = .ok blob) :
    Checkpointer.resume w =
      ((Checkpointer.ofBlob blob).mapError fun error => .snapshot (.decode error), w) := by
  simp only [Checkpointer.resume_eq, load_eq hload]
  cases Checkpointer.ofBlob blob <;> rfl

theorem resume_eq (hslot : w.vault.slot = .memory blob) (hload : w.vault.refuseLoad = none) :
    Checkpointer.resume w =
      ((Checkpointer.ofBlob blob).mapError fun error => .snapshot (.decode error), w) :=
  resume_of_load (by rw [Vault.load, hload, hslot, Slot.read])

theorem snapshot_ofBlob (blob : Bytes) :
    (Checkpointer.ofBlob blob).map Checkpointer.snapshot = Snapshot.restore blob := by
  unfold Checkpointer.ofBlob Snapshot.restore
  cases Snapshot.decode blob with
  | error error => rfl
  | ok held => cases held <;> rfl

theorem exists_resume (hslot : w.vault.slot = .memory blob) (hload : w.vault.refuseLoad = none)
    (hrestore : Snapshot.restore blob = .ok s) :
    ∃ c, Checkpointer.resume w = (.ok c, w) ∧ c.snapshot = s := by
  rw [← snapshot_ofBlob] at hrestore
  obtain ⟨c, hblob, hsnapshot⟩ := exists_of_map_eq_ok hrestore
  refine ⟨c, ?_, hsnapshot⟩
  rw [resume_eq hslot hload, hblob]
  rfl

theorem restore_of_resume {c : Checkpointer} (hslot : w.vault.slot = .memory blob)
    (hload : w.vault.refuseLoad = none) (h : Checkpointer.resume w = (.ok c, w')) :
    w = w' ∧ Snapshot.restore blob = .ok c.snapshot := by
  rw [resume_eq hslot hload] at h
  cases hblob : Checkpointer.ofBlob blob with
  | error error => simp [hblob, Except.mapError] at h
  | ok c₀ =>
    obtain ⟨rfl, rfl⟩ : c₀ = c ∧ w = w' := by simpa [hblob, Except.mapError] using h
    refine ⟨rfl, ?_⟩
    rw [← snapshot_ofBlob, hblob]
    rfl

theorem run_of_resume {ω : Type} [World ω] {c : Checkpointer} {w w₀ : ω}
    (h : Checkpointer.resume w = (.ok c, w₀)) :
    run r w = (((machine r).run c none w₀).1, ((machine r).run c none w₀).2.2) := by
  rw [run_eq, h]

theorem run_of_resume_error {ω : Type} [World ω] {error : Error} {w w₀ : ω}
    (h : Checkpointer.resume w = (.error error, w₀)) : run r w = (.error error, w₀) := by
  rw [run_eq, h]

/-- A session takes up the snapshot in its slot, or it fails to and has done nothing. -/
theorem resume_or_fails (hslot : w.vault.slot = .memory blob) :
    (∃ error, Checkpointer.resume w = (.error error, w)) ∨
      ∃ c, Checkpointer.resume w = (.ok c, w) ∧ Snapshot.restore blob = .ok c.snapshot := by
  cases hload : w.vault.refuseLoad with
  | some reason =>
    have hworld : World.load w = (.error (.storage (.refused reason)), w) := by
      show w.load = _
      simp [Rehearsal.load, Vault.load, hload, Except.mapError]
    refine .inl ⟨.storage (.refused reason), ?_⟩
    simp only [Checkpointer.resume_eq, hworld]
  | none =>
    have hresume := resume_eq hslot hload
    rw [← snapshot_ofBlob]
    cases hblob : Checkpointer.ofBlob blob with
    | error error => exact .inl ⟨_, by rw [hresume, hblob]; rfl⟩
    | ok c => exact .inr ⟨c, by rw [hresume, hblob]; rfl, rfl⟩

/-- A session whose first move is to stop leaves everything as it found it. -/
theorem run_of_stop (hslot : w.vault.slot = .memory blob) (hload : w.vault.refuseLoad = none)
    (hrestore : Snapshot.restore blob = .ok s) (hstop : next r s none = .stop result) :
    run r w = (result, w) := by
  obtain ⟨c, hresume, rfl⟩ := exists_resume hslot hload hrestore
  have hover : Machine.carryOut ((machine r).next c.snapshot none) c w = .over result c w := by
    show Machine.carryOut (next r c.snapshot none) c w = _
    rw [hstop]
    rfl
  rw [run_of_resume hresume, Machine.run_over hover]

theorem passage_run (hslot : w.vault.slot = .memory blob) (hload : w.vault.refuseLoad = none)
    (hrestore : Snapshot.restore blob = .ok s) : Passage r s w (run r w).1 (run r w).2 := by
  obtain ⟨c, hresume, rfl⟩ := exists_resume hslot hload hrestore
  rw [run_of_resume hresume]
  exact passage_machine hslot c none trivial

/-- What is seen of a session is a course and what its end or a fault adds to it. -/
theorem events_run (hslot : w.vault.slot = .memory blob) (hload : w.vault.refuseLoad = none)
    (hrestore : Snapshot.restore blob = .ok s) :
    ∃ trace s' tail, Course r s trace s' ∧ (run r w).2.events = w.events ++ (trace ++ tail) ∧
      ((∃ result rest, (next r s' none).Ends tail result rest) ∨
        ∃ fault, (next r s' none).Breaks fault tail) := by
  obtain ⟨trace, s', w₁, hcourse, hfollows, hstops⟩ := passage_run (r := r) hslot hload hrestore
  generalize (run r w).1 = result at hstops
  generalize (run r w).2 = w' at hstops ⊢
  cases hstops with
  | @ended tail _ _ hend hfollows' =>
    exact ⟨trace, s', tail, hcourse, (hfollows.trans hfollows').events_eq, .inl ⟨_, _, hend⟩⟩
  | @broken fault tail _ hbreak hfollows' _ =>
    exact ⟨trace, s', tail, hcourse, (hfollows.trans hfollows').events_eq, .inr ⟨fault, hbreak⟩⟩

theorem run_opening (r : Registry) (lines : List String)
    (hrestore : Snapshot.restore blob = .ok s) :
    ∃ trace, Completes r s lines trace (run r (Rehearsal.opening blob lines)).1
        (run r (Rehearsal.opening blob lines)).2.lines ∧
      (Rehearsal.opening blob lines).Follows trace (run r (Rehearsal.opening blob lines)).2 := by
  obtain ⟨trace, s', w₁, hcourse, hfollows, hstops⟩ :=
    passage_run (r := r) (w := Rehearsal.opening blob lines) rfl rfl hrestore
  generalize (run r (Rehearsal.opening blob lines)).1 = result at hstops ⊢
  generalize (run r (Rehearsal.opening blob lines)).2 = w' at hstops ⊢
  cases hstops with
  | @ended tail _ _ hend hfollows' =>
    have hthrough := hfollows.trans hfollows'
    exact ⟨trace ++ tail, ⟨trace, tail, s', hcourse, hend, rfl, hthrough.lines_eq⟩, hthrough⟩
  | @broken fault _ _ _ _ hstrikes =>
    cases fault with
    | call moment reason =>
      obtain ⟨n, -, -, hrefuse⟩ := hstrikes.of_follows hfollows
      cases hrefuse
    | store reason =>
      obtain ⟨n, hrefuse⟩ := hstrikes.of_follows hfollows
      cases hrefuse

theorem run_of_restore_error {error : DecodeError} (hslot : w.vault.slot = .memory blob)
    (hload : w.vault.refuseLoad = none) (hrestore : Snapshot.restore blob = .error error) :
    run r w = (.error (.snapshot (.decode error)), w) := by
  rw [← snapshot_ofBlob] at hrestore
  cases hblob : Checkpointer.ofBlob blob with
  | error error' =>
    obtain rfl : error' = error := by simpa [hblob, Except.map] using hrestore
    simp [run_eq, resume_eq hslot hload, hblob, Except.mapError]
  | ok c => simp [hblob, Except.map] at hrestore

/-- Whatever the slot holds, a session leaves in it what it has saved last. -/
theorem slot_run (r : Registry) (hslot : w.vault.slot = .memory blob)
    (hload : w.vault.refuseLoad = none) :
    ∃ trace, (run r w).2.events = w.events ++ trace ∧
      (run r w).2.vault.slot = .memory (lastSaved blob trace) := by
  cases hrestore : Snapshot.restore blob with
  | error error =>
    rw [run_of_restore_error hslot hload hrestore]
    exact ⟨[], by simp, hslot⟩
  | ok s =>
    obtain ⟨trace, s', w₁, -, hfollows, hstops⟩ := passage_run (r := r) hslot hload hrestore
    obtain ⟨tail, htail⟩ := hstops.follows
    have hthrough := hfollows.trans htail
    exact ⟨trace ++ tail, hthrough.events_eq, hthrough.slot hslot⟩

end Session

end DurableCalc
