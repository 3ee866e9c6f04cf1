import DurableCalc.Proofs.Session.Passage

/-!
# Edits of a checkpointer

A checkpointer is asked to change its snapshot, to stage a progress, to complete a command or to
clear its slot, and the slot may refuse each time. An edit that is done leaves slot and memory in
step; one that is refused leaves the slot as it is. But a change is made in memory before it is
saved, so that a refused one stays there, and the next edit that is done carries it into the slot.
Only clearing waits for the slot.
-/

namespace DurableCalc.Checkpointer

inductive Edit
  | update (change : Snapshot → Snapshot)
  | stage (p : Progress)
  | complete
  | clear

namespace Edit

def perform {ω : Type} [World ω] : Edit → Checkpointer → ω → Except Error Unit × Checkpointer × ω
  | .update change => Checkpointer.update change
  | .stage p => Checkpointer.stage p
  | .complete => Checkpointer.complete
  | .clear => Checkpointer.clear

def apply : Edit → Snapshot → Snapshot
  | .update change => change
  | .stage p => Snapshot.stage p
  | .complete => Snapshot.completed
  | .clear => fun _ => .fresh

def isClear : Edit → Bool
  | .clear => true
  | _ => false

def blob (e : Edit) (s : Snapshot) : Bytes :=
  if e.isClear then [] else s.encode

/-- What a refused edit makes of the snapshot in memory. -/
def linger (e : Edit) (s : Snapshot) : Snapshot :=
  if e.isClear then s else e.apply s

end Edit

/-- Makes one edit after the other, whatever comes of each, and gives their results in order. -/
def performAll {ω : Type} [World ω] :
    List Edit → Checkpointer → ω → List (Except Error Unit) × Checkpointer × ω
  | [], c, w => ([], c, w)
  | e :: edits, c, w =>
    match e.perform c w with
    | (result, c, w) =>
      match performAll edits c w with
      | (results, c, w) => (result :: results, c, w)

inductive Performs (e : Edit) (c : Checkpointer) (w : Rehearsal) :
    Except Error Unit × Checkpointer × Rehearsal → Prop
  | done {w' : Rehearsal} (hfollows : w.Follows [.saved (e.blob (e.apply c.snapshot))] w') :
      Performs e c w
        (.ok (), { c with snapshot := e.apply c.snapshot, writes := c.writes + 1 }, w')
  | refused {reason : String} {w' : Rehearsal} (hfollows : w.Follows [.saveRefused] w') :
      Performs e c w
        (.error (.storage (.refused reason)), { c with snapshot := e.linger c.snapshot }, w')

theorem performAll_cons {ω : Type} [World ω] (e : Edit) (edits : List Edit) (c : Checkpointer)
    (w : ω) :
    performAll (e :: edits) c w =
      ((e.perform c w).1 :: (performAll edits (e.perform c w).2.1 (e.perform c w).2.2).1,
        (performAll edits (e.perform c w).2.1 (e.perform c w).2.2).2) := rfl

variable {e : Edit} {c : Checkpointer} {w : Rehearsal} {blob : Bytes}

/-- Every edit but clearing is a change of the snapshot that is then saved. -/
theorem performs_update (he : e.isClear = false) (c : Checkpointer)
    (hslot : w.vault.slot = .memory blob) : Performs e c w (c.update e.apply w) := by
  have hblob : e.blob (e.apply c.snapshot) = (e.apply c.snapshot).encode := by
    simp [Edit.blob, he]
  have hlinger : e.linger c.snapshot = e.apply c.snapshot := by simp [Edit.linger, he]
  have hstore := Rehearsal.stores_store hslot (e.apply c.snapshot).encode
  have hworld : World.store (e.apply c.snapshot).commandName? (e.apply c.snapshot).encode w =
      w.store (e.apply c.snapshot).encode := rfl
  simp only [update_eq, hworld]
  generalize w.store (e.apply c.snapshot).encode = attempt at hstore ⊢
  cases hstore with
  | done hfollows => exact .done (hblob ▸ hfollows)
  | broken hfollows _ =>
    rw [← hlinger]
    exact .refused hfollows

theorem performs_perform (e : Edit) (c : Checkpointer) (hslot : w.vault.slot = .memory blob) :
    Performs e c w (e.perform c w) := by
  cases e with
  | update change => exact performs_update rfl c hslot
  | stage p => exact performs_update rfl c hslot
  | complete => exact performs_update rfl c hslot
  | clear =>
    have hstore := Rehearsal.stores_store hslot []
    have hworld : World.store none [] w = w.store [] := rfl
    simp only [Edit.perform, clear_eq, hworld]
    generalize w.store [] = attempt at hstore ⊢
    cases hstore with
    | done hfollows => exact .done hfollows
    | broken hfollows _ => exact .refused hfollows

theorem Performs.exists_follows {out : Except Error Unit × Checkpointer × Rehearsal}
    (h : Performs e c w out) : ∃ trace, w.Follows trace out.2.2 := by
  cases h with
  | done hfollows => exact ⟨_, hfollows⟩
  | refused hfollows => exact ⟨_, hfollows⟩

/-- Whatever edits were made, their slot can still be told by what was saved in it. -/
theorem exists_follows_performAll (edits : List Edit) (c : Checkpointer)
    (hslot : w.vault.slot = .memory blob) :
    ∃ trace, w.Follows trace (performAll edits c w).2.2 := by
  induction edits generalizing c w blob with
  | nil => exact ⟨[], .refl hslot⟩
  | cons e edits ih =>
    obtain ⟨trace, hfollows⟩ := (performs_perform e c hslot).exists_follows
    obtain ⟨trace', hfollows'⟩ := ih (e.perform c w).2.1 (hfollows.slot hslot)
    exact ⟨trace ++ trace', hfollows.trans hfollows'⟩

theorem writes_performAll (edits : List Edit) (c : Checkpointer)
    (hslot : w.vault.slot = .memory blob) :
    (performAll edits c w).2.1.writes = c.writes + (performAll edits c w).1.countP Except.isOk := by
  induction edits generalizing c w blob with
  | nil => rfl
  | cons e edits ih =>
    have hperforms := performs_perform e c hslot
    obtain ⟨trace, hfollows⟩ := hperforms.exists_follows
    have hlater := ih (e.perform c w).2.1 (hfollows.slot hslot)
    rw [performAll_cons, List.countP_cons, hlater]
    generalize e.perform c w = out at hperforms ⊢
    cases hperforms with
    | done _ => simp [Except.isOk, Except.toBool]; omega
    | refused _ => simp [Except.isOk, Except.toBool]

/-- A slot in which an edit has saved a snapshot within its bounds is taken up as that snapshot. -/
theorem resume_of_blob {s : Snapshot} (hclear : e.isClear = true → s = .fresh)
    (hfault : s.fault? = none) (hslot : w.vault.slot = .memory (e.blob s))
    (hload : w.vault.refuseLoad = none) :
    resume w = (.ok { snapshot := s, resumed := !e.isClear }, w) := by
  rw [Session.resume_eq hslot hload]
  cases he : e.isClear with
  | true =>
    obtain rfl := hclear he
    simp [Edit.blob, he, ofBlob, Snapshot.decode, Except.mapError]
  | false => simp [Edit.blob, he, ofBlob, Snapshot.decode_encode, hfault, Except.mapError]

theorem Edit.apply_of_isClear (he : e.isClear = true) (s : Snapshot) : e.apply s = .fresh := by
  cases e <;> first | rfl | cases he

theorem writes_of_resume {w₀ : Rehearsal} (hslot : w.vault.slot = .memory blob)
    (hload : w.vault.refuseLoad = none) (h : resume w = (.ok c, w₀)) : w = w₀ ∧ c.writes = 0 := by
  refine ⟨(Session.restore_of_resume hslot hload h).1, ?_⟩
  rw [Session.resume_eq hslot hload] at h
  unfold ofBlob at h
  split at h
  · cases h
  · cases h
    rfl
  · cases h
    rfl

/-- Slot and memory are in step after every edit that is done, and an edit that is refused leaves
the slot as it is, whichever edits were made before and whichever of them were refused. A slot in
step is taken up as the snapshot in memory, and as nothing saved exactly after it was cleared. The
writes are the edits that were done. -/
theorem in_step_of_done {blob : Bytes} {lines : List String}
    {refuseCall : Nat → Option (Moment × String)} {refuseStore : Nat → Option String}
    {c : Checkpointer} {w : Rehearsal}
    (hresume : resume (Rehearsal.opening blob lines refuseCall refuseStore) = (.ok c, w))
    (edits : List Edit) (e : Edit) :
    let before := performAll edits c w
    let after := e.perform before.2.1 before.2.2
    (after.1 = .ok () →
      after.2.1.snapshot = e.apply before.2.1.snapshot ∧
        after.2.2.vault.slot = .memory (e.blob after.2.1.snapshot) ∧
        (after.2.1.snapshot.fault? = none →
          resume after.2.2 =
            (.ok { snapshot := after.2.1.snapshot, resumed := !e.isClear }, after.2.2))) ∧
      (∀ error, after.1 = .error error → after.2.2.vault.slot = before.2.2.vault.slot) ∧
      after.2.1.writes = (before.1 ++ [after.1]).countP Except.isOk := by
  intro before after
  obtain ⟨rfl, hzero⟩ := writes_of_resume rfl rfl hresume
  obtain ⟨trace, hfollows⟩ := exists_follows_performAll edits c
    (w := Rehearsal.opening blob lines refuseCall refuseStore) rfl
  have hslot : before.2.2.vault.slot = .memory (Event.lastSaved blob trace) := hfollows.slot rfl
  have hload : before.2.2.vault.refuseLoad = none := hfollows.refuseLoad_eq
  have hwrites : before.2.1.writes = before.1.countP Except.isOk := by
    have hcount := writes_performAll edits c
      (w := Rehearsal.opening blob lines refuseCall refuseStore) rfl
    rwa [hzero, Nat.zero_add] at hcount
  have hperforms : Performs e before.2.1 before.2.2 after := performs_perform e _ hslot
  clear_value after
  cases hperforms with
  | @done w' hsaved =>
    have hslot' : w'.vault.slot = .memory (e.blob (e.apply before.2.1.snapshot)) :=
      hsaved.slot hslot
    have hload' : w'.vault.refuseLoad = none := hsaved.refuseLoad_eq.trans hload
    refine ⟨fun _ => ⟨rfl, hslot', fun hfault => ?_⟩, nofun, ?_⟩
    · exact resume_of_blob (fun he => Edit.apply_of_isClear he _) hfault hslot' hload'
    · simp [hwrites, Except.isOk, Except.toBool]
  | refused hrefused =>
    refine ⟨nofun, fun error _ => ?_, ?_⟩
    · rw [hslot]
      exact hrefused.slot hslot
    · simp [hwrites, Except.isOk, Except.toBool]

/-- A session's first line, of which the second save is refused: the progress that could not be
staged is in no slot until it is staged again. -/
theorem in_step_of_done_restage :
    let opened := Rehearsal.opening [] [] (fun _ => none) fun n =>
      if n = 1 then some "full" else none
    let take : Edit := .update fun s => { s with pendingInput := some "sum" }
    let stage : Edit := .stage (.sum { first := some 15 })
    let before := performAll [take, stage] {} opened
    let after := stage.perform before.2.1 before.2.2
    resume opened = (.ok {}, opened) ∧ after.1 = .ok () ∧
      after.2.2.vault.slot = .memory after.2.1.snapshot.encode ∧
      resume after.2.2 = (.ok { snapshot := after.2.1.snapshot, resumed := true }, after.2.2) ∧
      after.2.1.writes = 2 := by
  intro opened take stage before after
  have hresume : resume opened = (.ok {}, opened) := rfl
  have hdone : after.1 = .ok () := rfl
  obtain ⟨hstep, -, hwrites⟩ := in_step_of_done hresume [take, stage] stage
  obtain ⟨-, hslot, hresumed⟩ := hstep hdone
  exact ⟨hresume, hdone, hslot, hresumed rfl, hwrites⟩

/-- An edit that is refused leaves the slot, and in memory what lingers of it. -/
theorem performAll_refused (edits : List Edit) (c : Checkpointer)
    (hslot : w.vault.slot = .memory blob)
    (hrefused : ∀ result ∈ (performAll edits c w).1, result ≠ .ok ()) :
    (performAll edits c w).2.1.snapshot = edits.foldl (fun s e => e.linger s) c.snapshot ∧
      (performAll edits c w).2.2.vault.slot = .memory blob := by
  induction edits generalizing c w with
  | nil => exact ⟨rfl, hslot⟩
  | cons e edits ih =>
    have hperforms := performs_perform e c hslot
    rw [performAll_cons] at hrefused ⊢
    generalize e.perform c w = out at hperforms hrefused ⊢
    cases hperforms with
    | done hfollows => exact absurd rfl (hrefused _ List.mem_cons_self)
    | refused hfollows =>
      exact ih _ (hfollows.slot hslot) fun result h => hrefused result (List.mem_cons_of_mem _ h)

/-- While edits are refused the slot stays as the last one that was done has left it, and memory
runs ahead of it by the changes that were to be saved; only clearing changes nothing in memory. The
next edit that is done starts from there and saves them all. -/
theorem snapshot_of_refused (c : Checkpointer) (blob : Bytes) (lines : List String)
    (refuseCall : Nat → Option (Moment × String)) (refuseStore : Nat → Option String)
    (edits later : List Edit) :
    let last := performAll edits c (Rehearsal.opening blob lines refuseCall refuseStore)
    let now := performAll later last.2.1 last.2.2
    (∀ result ∈ now.1, result ≠ .ok ()) →
      now.2.1.snapshot = later.foldl (fun s e => e.linger s) last.2.1.snapshot ∧
        ((∀ e ∈ later, e.isClear = true) → now.2.1.snapshot = last.2.1.snapshot) ∧
        now.2.2.vault.slot = last.2.2.vault.slot ∧
        ∀ e : Edit, (e.perform now.2.1 now.2.2).1 = .ok () →
          (e.perform now.2.1 now.2.2).2.1.snapshot = e.apply now.2.1.snapshot ∧
            (e.perform now.2.1 now.2.2).2.2.vault.slot =
              .memory (e.blob (e.apply now.2.1.snapshot)) := by
  intro last now hrefused
  obtain ⟨trace, hfollows⟩ := exists_follows_performAll edits c
    (w := Rehearsal.opening blob lines refuseCall refuseStore) rfl
  have hslot : last.2.2.vault.slot = .memory (Event.lastSaved blob trace) := hfollows.slot rfl
  obtain ⟨hsnapshot, hslot'⟩ := performAll_refused later last.2.1 hslot hrefused
  have hclears : ∀ s, (∀ e ∈ later, e.isClear = true) →
      later.foldl (fun s e => e.linger s) s = s := by
    intro s hclear
    refine List.foldlRecOn (motive := fun s' => s' = s) later _ rfl fun s' hs' e he => ?_
    rw [hs', Edit.linger, if_pos (hclear e he)]
  refine ⟨hsnapshot, fun hclear => hsnapshot.trans (hclears _ hclear), hslot'.trans hslot.symm, ?_⟩
  intro e hdone
  have hperforms := performs_perform e now.2.1 hslot'
  generalize e.perform now.2.1 now.2.2 = out at hperforms hdone ⊢
  cases hperforms with
  | done hsaved => exact ⟨rfl, hsaved.slot hslot'⟩
  | refused _ => cases hdone

/-- A line that is taken as pending, and a slot that refuses it and then the clearing after it. -/
theorem snapshot_of_refused_take :
    let opened := Rehearsal.opening [] [] (fun _ => none) fun n =>
      if n < 2 then some "full" else none
    let take : Edit := .update fun s => { s with pendingInput := some "sum" }
    let now := performAll [take, .clear] {} opened
    (∀ result ∈ now.1, result ≠ .ok ()) ∧ now.2.1.snapshot = { pendingInput := some "sum" } ∧
      now.2.2.vault.slot = .memory [] := by
  intro opened take now
  have hrefused : ∀ result ∈ now.1, result ≠ .ok () := by
    have hresults : now.1 = List.replicate 2 (.error (.storage (.refused "full"))) := rfl
    rw [hresults]
    intro result h
    rw [List.eq_of_mem_replicate h]
    simp
  obtain ⟨hsnapshot, -, hslot, -⟩ :=
    snapshot_of_refused {} [] [] (fun _ => none) _ [] [take, .clear] hrefused
  exact ⟨hrefused, hsnapshot, hslot⟩

/-- An update that is refused changes the snapshot in memory, which is then not the one that the
slot holds, and the next update saves what was refused. -/
theorem refused_update_lingers :
    let opened := Rehearsal.opening [] [] (fun _ => none) fun n =>
      if n = 0 then some "full" else none
    let take : Edit := .update fun s => { s with pendingInput := some "sum" }
    let reseed : Edit := .update fun s => { s with rngState := 1 }
    let after := take.perform {} opened
    let later := reseed.perform after.2.1 after.2.2
    resume opened = (.ok {}, opened) ∧ after.1 = .error (.storage (.refused "full")) ∧
      after.2.1.snapshot ≠ .fresh ∧ after.2.2.vault.slot = .memory [] ∧ later.1 = .ok () ∧
      later.2.2.vault.slot =
        .memory ({ rngState := 1, pendingInput := some "sum" } : Snapshot).encode := by
  refine ⟨rfl, rfl, ?_, rfl, rfl, rfl⟩
  decide

end DurableCalc.Checkpointer
