import DurableCalc.Proofs.Session.Passage

/-!
# Refused calls are made up for exactly once

A session whose calls of the channel may be refused before they have their effect, and which is run
again after each refusal, shows the same lines, the same saved blobs and the same result as one in
which no call is refused. Its runs follow one course: what a run saved last is where the next one
goes on, and the refused call is the next one that it makes.
-/

namespace DurableCalc

open Event

structure Event.IsIdle (tail : List Event) : Prop where
  linesRead_eq : linesRead tail = []
  lastSaved_eq : ∀ blob, lastSaved blob tail = blob
  effective_eq : effective tail = []

theorem Event.IsIdle.saved_notMem {tail : List Event} (h : IsIdle tail) (blob : Bytes) :
    .saved blob ∉ tail := fun hblob =>
  List.filter_eq_nil_iff.1 h.effective_eq _ hblob rfl

theorem Event.IsIdle.linesWritten_eq {tail : List Event} (h : IsIdle tail) :
    linesWritten tail = [] := by
  rw [linesWritten, List.filterMap_eq_nil_iff]
  intro event hevent
  cases event with
  | wrote line => exact absurd rfl (List.filter_eq_nil_iff.1 h.effective_eq _ hevent)
  | _ => rfl

/-- The refusals of a list: an entry tells of a call of the channel, in turn, whether it is refused
before it has an effect. Later calls are not refused. -/
def Rehearsal.beforehand (refusals : List (Option String)) (n : Nat) : Option (Moment × String) :=
  (refusals[n]?.getD none).map fun reason => (.before, reason)

/-- A rehearsal in which a call of the channel is refused before it has an effect or not at all, and
in which the slot refuses nothing. -/
structure Rehearsal.Gentle (w : Rehearsal) : Prop where
  refuseCall_before : ∀ n moment reason, w.refuseCall n = some (moment, reason) → moment = .before
  refuseStore_eq : ∀ n, w.vault.refuseStore n = none
  refuseLoad_eq : w.vault.refuseLoad = none

theorem Rehearsal.Gentle.of_follows {w w' : Rehearsal} {trace : List Event} (h : w.Gentle)
    (hfollows : w.Follows trace w') : w'.Gentle where
  refuseCall_before := by rw [hfollows.refuseCall_eq]; exact h.refuseCall_before
  refuseStore_eq := by rw [hfollows.refuseStore_eq]; exact h.refuseStore_eq
  refuseLoad_eq := by rw [hfollows.refuseLoad_eq]; exact h.refuseLoad_eq

theorem Rehearsal.gentle_before (blob : Bytes) (lines : List String)
    (reasons : Nat → Option String) :
    (opening blob lines fun n => (reasons n).map fun reason => (.before, reason)).Gentle where
  refuseCall_before n moment reason h := by
    obtain ⟨reason', -, hmoment⟩ := Option.map_eq_some_iff.1 h
    exact (congrArg Prod.fst hmoment).symm
  refuseStore_eq _ := rfl
  refuseLoad_eq := rfl

theorem Rehearsal.gentle_opening (blob : Bytes) (lines : List String)
    (refusals : List (Option String)) : (opening blob lines (beforehand refusals)).Gentle :=
  gentle_before blob lines fun n => refusals[n]?.getD none

namespace Session

/-- Runs a session, and runs it again after each refused call of the channel, at most `n` times. -/
def retry (r : Registry) : Nat → Rehearsal → Except Error Unit × Rehearsal
  | 0, w => run r w
  | n + 1, w =>
    match run r w with
    | (.error (.channel _), w) => retry r n w
    | (result, w) => (result, w)

variable {r : Registry} {s s' : Snapshot} {w w' : Rehearsal} {blob : Bytes}
  {trace tail : List Event} {result : Except Error Unit} {rest : List String}

theorem Course.effective_eq (h : Course r s trace s') : effective trace = trace := by
  induction h with
  | refl s => rfl
  | @cons s s' s'' visible trace hact hcourse ih =>
    obtain ⟨k, hdoes⟩ := hact.exists_does
    rw [effective_append, hdoes.effective_eq]
    show visible ++ (.saved s'.encode :: effective trace) = _
    rw [ih]

theorem Completes.effective_eq {lines : List String} (h : Completes r s lines trace result rest) :
    effective trace = trace := by
  obtain ⟨course, tail, s', hcourse, hend, rfl, -⟩ := h
  rw [effective_append, hcourse.effective_eq, hend.effective_eq]

/-- A call that is refused before it has an effect leaves no trace but the refusal. -/
theorem idle_of_breaks_before {move : Move σ} {reason : String}
    (h : move.Breaks (.call .before reason) tail) : IsIdle tail := by
  cases h with
  | ask hfault =>
    cases hfault
    exact ⟨rfl, fun _ => rfl, rfl⟩
  | tell hfault =>
    cases hfault
    exact ⟨rfl, fun _ => rfl, rfl⟩
  | conclude hfault =>
    cases hfault
    exact ⟨rfl, fun _ => rfl, rfl⟩

theorem run_of_gentle (hgentle : w.Gentle) (hslot : w.vault.slot = .memory blob)
    (hrestore : Snapshot.restore blob = .ok s) :
    (∃ trace, Completes r s w.lines trace (run r w).1 (run r w).2.lines ∧
      w.Follows trace (run r w).2) ∨
    (∃ trace tail s' error, Course r s trace s' ∧ w.Follows (trace ++ tail) (run r w).2 ∧
      IsIdle tail ∧ (run r w).1 = .error (.channel error) ∧
      ∃ n, w.channelCalls ≤ n ∧ n < (run r w).2.channelCalls ∧ w.refuseCall n ≠ none) := by
  obtain ⟨trace, s', w₁, hcourse, hfollows, hstops⟩ :=
    passage_run hslot hgentle.refuseLoad_eq hrestore (r := r)
  generalize (run r w).1 = result at hstops ⊢
  generalize (run r w).2 = w' at hstops ⊢
  cases hstops with
  | @ended tail _ _ hend hfollows' =>
    left
    have hthrough := hfollows.trans hfollows'
    exact ⟨trace ++ tail, ⟨trace, tail, s', hcourse, hend, rfl, hthrough.lines_eq⟩, hthrough⟩
  | @broken fault tail _ hbreak hfollows' hstrikes =>
    right
    have hthrough := hfollows.trans hfollows'
    cases fault with
    | store reason =>
      obtain ⟨n, hrefuse⟩ := hstrikes
      rw [(hgentle.of_follows hfollows).refuseStore_eq n] at hrefuse
      cases hrefuse
    | call moment reason =>
      obtain ⟨n, hle, hlt, hrefuse⟩ := hstrikes.of_follows hfollows
      obtain rfl := hgentle.refuseCall_before n moment reason hrefuse
      have hcall : ∃ n, w.channelCalls ≤ n ∧ n < w'.channelCalls ∧ w.refuseCall n ≠ none :=
        ⟨n, hle, hlt, by simp [hrefuse]⟩
      exact ⟨trace, tail, s', _, hcourse, hthrough, idle_of_breaks_before hbreak, rfl, hcall⟩

theorem retry_of_ne_channel (h : ∀ error, (run r w).1 ≠ .error (.channel error)) (n : Nat) :
    retry r n w = run r w := by
  cases n with
  | zero => rfl
  | succ n =>
    cases hrun : run r w with
    | mk result w' =>
      rw [retry, hrun]
      split
      · rename_i error _ heq
        cases heq
        exact absurd (by rw [hrun]) (h error)
      · rename_i heq
        exact heq.symm

theorem retry_of_channel {error : ChannelError} (h : (run r w).1 = .error (.channel error))
    (n : Nat) : retry r (n + 1) w = retry r n (run r w).2 := by
  cases hrun : run r w with
  | mk result w' =>
    obtain rfl : result = .error (.channel error) := by rw [← h, hrun]
    rw [retry, hrun]

theorem Completes.ne_channel {lines : List String} (h : Completes r s lines trace result rest)
    (error : ChannelError) : result ≠ .error (.channel error) := by
  obtain ⟨course, tail, s', -, hend, -, -⟩ := h
  exact (halt_of_ends hend).ne_channel error

/-- Retrying, a session completes as if nothing had been refused. -/
theorem retry_completes (n : Nat) (hgentle : w.Gentle) (hslot : w.vault.slot = .memory blob)
    (hrestore : Snapshot.restore blob = .ok s)
    (hlast : ∀ i, w.channelCalls + n ≤ i → w.refuseCall i = none) :
    ∃ trace, Completes r s w.lines trace (retry r n w).1 (retry r n w).2.lines ∧
      effective (retry r n w).2.events = effective w.events ++ trace ∧
      (retry r n w).2.vault.slot = .memory (lastSaved blob trace) := by
  induction n generalizing w blob s with
  | zero =>
    rcases run_of_gentle hgentle hslot hrestore with
      ⟨trace, hcomplete, hfollows⟩ | ⟨_, _, _, _, _, _, _, _, n, hle, _, hrefuse⟩
    · refine ⟨trace, hcomplete, ?_, hfollows.slot hslot⟩
      rw [retry, hfollows.events_eq, effective_append, hcomplete.effective_eq]
    · exact absurd (hlast n (by omega)) hrefuse
  | succ n ih =>
    rcases run_of_gentle hgentle hslot hrestore with
      ⟨trace, hcomplete, hfollows⟩ |
      ⟨trace, tail, s', error, hcourse, hfollows, hidle, hresult, i, hle, hlt, -⟩
    · rw [retry_of_ne_channel hcomplete.ne_channel]
      refine ⟨trace, hcomplete, ?_, hfollows.slot hslot⟩
      rw [hfollows.events_eq, effective_append, hcomplete.effective_eq]
    -- What the broken run saved last is the snapshot that its course has led to, and the next run
    -- goes on from there with one refusal less ahead of it.
    · have hretry := retry_of_channel hresult n
      generalize (run r w).2 = w' at hfollows hlt hretry
      have hlines : w.lines = linesRead trace ++ w'.lines := by
        rw [hfollows.lines_eq, linesRead_append, hidle.linesRead_eq, List.append_nil]
      have hslot' : w'.vault.slot = .memory (lastSaved blob trace) := by
        rw [hfollows.slot hslot, lastSaved_append, hidle.lastSaved_eq]
      have hevents : effective w'.events = effective w.events ++ trace := by
        rw [hfollows.events_eq, effective_append, effective_append, hcourse.effective_eq,
          hidle.effective_eq, List.append_nil]
      have hlast' : ∀ i, w'.channelCalls + n ≤ i → w'.refuseCall i = none := by
        intro j hj
        rw [hfollows.refuseCall_eq]
        exact hlast j (by omega)
      obtain ⟨more, hcomplete, hmore, hslot''⟩ := ih (hgentle.of_follows hfollows) hslot'
        (hcourse.restore_lastSaved hrestore) hlast'
      rw [hretry]
      refine ⟨trace ++ more, ?_, ?_, ?_⟩
      · rw [hlines]
        exact hcomplete.prepend hcourse
      · rw [hmore, hevents, List.append_assoc]
      · rw [hslot'', lastSaved_append]

/-- Refused calls are made up for exactly once: whatever the slot holds, a session that is run again
after each refused call comes to the same result as a session in which no call is refused, which is
no refusal, and it shows the same lines read and written, the same blobs saved, the same blob in the
slot and the same lines left. -/
theorem retry_eq_run (r : Registry) (blob : Bytes) (lines : List String)
    (refusals : List (Option String)) (spare : Nat) :
    let refused := retry r (refusals.length + spare)
      (Rehearsal.opening blob lines (Rehearsal.beforehand refusals))
    let smooth := run r (Rehearsal.opening blob lines)
    refused.1 = smooth.1 ∧ (∀ error, smooth.1 ≠ .error (.channel error)) ∧
      effective refused.2.events = smooth.2.events ∧
      refused.2.vault.slot = smooth.2.vault.slot ∧ refused.2.lines = smooth.2.lines := by
  intro refused smooth
  have hlast : ∀ i, refusals.length + spare ≤ i → Rehearsal.beforehand refusals i = none := by
    intro i hi
    have hnone : refusals[i]? = none := List.getElem?_eq_none (by omega)
    simp [Rehearsal.beforehand, hnone]
  cases hrestore : Snapshot.restore blob with
  | error error =>
    have hsmooth : smooth = _ := run_of_restore_error rfl rfl hrestore
    have hrefused : refused = _ := retry_of_ne_channel
      (by rw [run_of_restore_error rfl rfl hrestore]; simp) _
    rw [run_of_restore_error rfl rfl hrestore] at hrefused
    rw [hsmooth, hrefused]
    exact ⟨rfl, by simp, rfl, rfl, rfl⟩
  | ok s =>
    obtain ⟨trace, hcomplete, hevents, hslot⟩ := retry_completes (r := r) _
      (Rehearsal.gentle_opening blob lines refusals) rfl hrestore
      (fun i hi => hlast i (by simpa [Rehearsal.opening] using hi))
    obtain ⟨trace', hcomplete', hfollows⟩ :=
      run_opening r lines hrestore
    obtain ⟨rfl, hresult, hrest⟩ := hcomplete.unique hcomplete'
    refine ⟨hresult, hcomplete'.ne_channel, ?_, ?_, hrest⟩
    · exact hevents.trans hfollows.events_eq.symm
    · exact hslot.trans (hfollows.slot rfl).symm

end Session

end DurableCalc
