import DurableCalc.Proofs.Session.Passage

/-!
# Lines are written at least once, in order

Calls of the channel may be refused before or after their effect, the slot may refuse, lines may be
malformed, and the session is run again after every run that fails. The lines that reach the channel
are then those of one run on the lines that were recorded, each of them once or several times in a
row: a run that goes on from a saved snapshot repeats at most the line that was written after it.
-/

namespace DurableCalc

open Event

/-- The second list is the first one with each element repeated in place any number of times. -/
inductive Stutters : List α → List α → Prop
  | nil : Stutters [] []
  | once {x : α} {xs ys : List α} (h : Stutters xs ys) : Stutters (x :: xs) (x :: ys)
  | again {x : α} {xs ys : List α} (h : Stutters (x :: xs) ys) : Stutters (x :: xs) (x :: ys)

theorem Stutters.prepend {xs ys : List α} (h : Stutters xs ys) (zs : List α) :
    Stutters (zs ++ xs) (zs ++ ys) := by
  induction zs with
  | nil => exact h
  | cons z zs ih => exact .once ih

theorem Stutters.eq_nil {ys : List α} (h : Stutters [] ys) : ys = [] := by
  cases h
  rfl

/-- The lines that were read and that the next event records. -/
def Event.linesRecorded : List Event → List String
  | .read line :: .saved _ :: trace => line :: linesRecorded trace
  | _ :: trace => linesRecorded trace
  | [] => []

namespace Session

structure Attempt where
  result : Except Error Unit
  events : List Event

/-- Runs a session again and again until a run ends well, at most `n` times. -/
def attempts (r : Registry) : Nat → Rehearsal → List Attempt
  | 0, _ => []
  | n + 1, w =>
    match run r { w with newest := [] } with
    | (.ok (), w) => [⟨.ok (), w.events⟩]
    | (.error error, w) => ⟨.error error, w.events⟩ :: attempts r n w

variable {r : Registry} {s s' s₁ : Snapshot} {blob : Bytes} {trace tail visible : List Event}
  {lines out rest : List String} {line : String} {result : Except Error Unit} {left : Prop}

/-- Some lines were recorded and others written on a course from a snapshot, the latter with
repetitions; if `left` holds, the session is left after the course. -/
def Covers (r : Registry) (s : Snapshot) (lines out : List String) (left : Prop) : Prop :=
  ∃ trace s', Course r s trace s' ∧ linesRead trace = lines ∧
    Stutters (linesWritten trace) out ∧ (left → next r s' none = .leave)

theorem Covers.prepend (hcourse : Course r s trace s₁) (h : Covers r s₁ lines out left) :
    Covers r s (linesRead trace ++ lines) (linesWritten trace ++ out) left := by
  obtain ⟨trace', s', hcourse', rfl, hout, hleft⟩ := h
  refine ⟨trace ++ trace', s', hcourse.trans hcourse', linesRead_append, ?_, hleft⟩
  rw [linesWritten_append]
  exact hout.prepend _

/-- A line that the session is about to write may have been written before. -/
theorem Covers.again (hact : Act r s [.wrote line] s₁) (h : Covers r s lines out left) :
    Covers r s lines (line :: out) left := by
  obtain ⟨trace, s', hcourse, rfl, hout, hleft⟩ := h
  obtain ⟨k, hdoes⟩ := hact.exists_does
  -- The line is the next one on the course, or the course ends before it and goes on with it now.
  cases hcourse with
  | refl _ =>
    refine ⟨_, s₁, .cons hact (.refl s₁), rfl, ?_, fun h => ?_⟩
    · rw [hout.eq_nil]
      exact .once .nil
    · rw [hleft h] at hdoes
      cases hdoes
  | @cons _ s'' _ visible trace hact' hcourse =>
    obtain ⟨k', hdoes'⟩ := hact'.exists_does
    have hline : linesRead [.wrote line] ++ linesRead visible = linesRead visible ++ [] := by simp
    obtain ⟨rfl, -, -⟩ := hdoes.unique hdoes' hline
    exact ⟨_, s', .cons hact' hcourse, rfl, .again hout, hleft⟩

theorem linesRecorded_course (h : Course r s trace s') (tail : List Event) :
    linesRecorded (trace ++ tail) = linesRead trace ++ linesRecorded tail := by
  induction h with
  | refl s => rfl
  | @cons s s' s'' visible trace hact hcourse ih =>
    obtain ⟨k, hdoes⟩ := hact.exists_does
    rw [List.append_assoc, List.cons_append, linesRead_append, linesRead_saved, List.append_assoc,
      ← ih]
    generalize next _ s none = move at hdoes
    cases hdoes with
    | ask haccept => simp [linesRecorded]
    | tell => simp [linesRecorded]
    | save => simp [linesRecorded]

structure Scrap (r : Registry) (s : Snapshot) (tail : List Event) : Prop where
  linesRecorded_eq : linesRecorded tail = []
  lastSaved_eq : ∀ blob, lastSaved blob tail = blob
  linesWritten_eq : linesWritten tail = [] ∨
    ∃ line s', linesWritten tail = [line] ∧ Act r s [.wrote line] s'

theorem Scrap.covers (h : Scrap r s tail) (hcovers : Covers r s lines out left) :
    Covers r s lines (linesWritten tail ++ out) left := by
  rcases h.linesWritten_eq with hnone | ⟨line, s', hline, hact⟩
  · rw [hnone]
    exact hcovers
  · rw [hline]
    exact hcovers.again hact

theorem scrap_of_ends {error : Error} (h : (next r s none).Ends tail (.error error) rest) :
    Scrap r s tail := by
  cases halt_of_ends h with
  | dry hidle => exact ⟨rfl, fun _ => rfl, .inl rfl⟩
  | foreign hpending hdemand => exact ⟨rfl, fun _ => rfl, .inl rfl⟩
  | refuse hwork hnext => exact ⟨rfl, fun _ => rfl, .inl rfl⟩
  | reject hwork hnext => exact ⟨rfl, fun _ => rfl, .inl rfl⟩
  | stall hwork hnext => exact ⟨rfl, fun _ => rfl, .inl rfl⟩
  | misread hwork hnext haccept => exact ⟨rfl, fun _ => rfl, .inl rfl⟩

theorem scrap_of_breaks {fault : Fault} (h : (next r s none).Breaks fault tail) :
    Scrap r s tail := by
  generalize hmove : next r s none = move at h
  cases h with
  | ask hfault => cases hfault <;> exact ⟨rfl, fun _ => rfl, .inl rfl⟩
  | @tell entries line s' k _ _ hfault =>
    have hdoes : (next r s none).Does [.wrote line] s' k := hmove ▸ .tell
    cases hfault with
    | before => exact ⟨rfl, fun _ => rfl, .inl rfl⟩
    | after => exact ⟨rfl, fun _ => rfl, .inr ⟨line, s', rfl, (act_of_does hdoes).1⟩⟩
  | conclude => exact absurd hmove (next_ne_conclude _)
  | @save _ visible s' k _ hdoes =>
    have hact := (act_of_does (hmove ▸ hdoes)).1
    cases hdoes with
    | ask haccept => exact ⟨rfl, fun _ => rfl, .inl rfl⟩
    | @tell _ line => exact ⟨rfl, fun _ => rfl, .inr ⟨line, s', rfl, hact⟩⟩
    | save => exact ⟨rfl, fun _ => rfl, .inl rfl⟩
  | leave => exact ⟨rfl, fun _ => rfl, .inl rfl⟩

variable {w : Rehearsal}

/-- A run is left by a session, or it fails and leaves scrap behind its course. -/
theorem run_left_or_scrap (hslot : w.vault.slot = .memory blob) (hload : w.vault.refuseLoad = none)
    (hrestore : Snapshot.restore blob = .ok s) :
    ∃ trace tail s', Course r s trace s' ∧ w.Follows (trace ++ tail) (run r w).2 ∧
      (((run r w).1 = .ok () ∧ next r s' none = .leave ∧ tail = [.saved []]) ∨
        ((∃ error, (run r w).1 = .error error) ∧ Scrap r s' tail)) := by
  obtain ⟨trace, s', w₁, hcourse, hfollows, hstops⟩ := passage_run (r := r) hslot hload hrestore
  generalize (run r w).1 = result at hstops ⊢
  generalize (run r w).2 = w' at hstops ⊢
  cases hstops with
  | @broken fault tail _ hbreak hfollows' hstrikes =>
    have hthrough := hfollows.trans hfollows'
    exact ⟨trace, tail, s', hcourse, hthrough, .inr ⟨⟨_, rfl⟩, scrap_of_breaks hbreak⟩⟩
  | @ended tail _ _ hend hfollows' =>
    refine ⟨trace, tail, s', hcourse, hfollows.trans hfollows', ?_⟩
    cases result with
    | error error => exact .inr ⟨⟨error, rfl⟩, scrap_of_ends hend⟩
    | ok _ =>
      cases halt_of_ends hend with
      | leave hpending hdemand =>
        exact .inl ⟨rfl, by simp only [next, hpending, hdemand], rfl⟩

theorem covers_attempts (n : Nat) (hslot : w.vault.slot = .memory blob)
    (hload : w.vault.refuseLoad = none) (hrestore : Snapshot.restore blob = .ok s) :
    Covers r s ((attempts r n w).flatMap fun a => linesRecorded a.events)
      ((attempts r n w).flatMap fun a => linesWritten a.events)
      (∃ a ∈ attempts r n w, a.result = .ok ()) := by
  induction n generalizing w blob s with
  | zero => exact ⟨[], s, .refl s, rfl, .nil, by simp [attempts]⟩
  | succ n ih =>
    obtain ⟨trace, tail, s', hcourse, hfollows, hstops⟩ :=
      run_left_or_scrap (r := r) (w := { w with newest := [] }) hslot hload hrestore
    have hattempts : attempts r (n + 1) w =
        match run r { w with newest := [] } with
        | (.ok (), w) => [⟨.ok (), w.events⟩]
        | (.error error, w) => ⟨.error error, w.events⟩ :: attempts r n w := rfl
    rw [hattempts]
    generalize run r { w with newest := [] } = out at hfollows hstops ⊢
    obtain ⟨result, w'⟩ := out
    have hevents : w'.events = trace ++ tail := hfollows.events_eq
    rcases hstops with ⟨hresult, hleave, rfl⟩ | ⟨⟨error, hresult⟩, hscrap⟩
    · obtain rfl : result = .ok () := hresult
      refine ⟨trace, s', hcourse, ?_, ?_, fun _ => hleave⟩
      · simp [hevents, linesRecorded_course hcourse, linesRecorded]
      · have := Stutters.nil.prepend (linesWritten trace)
        simpa [hevents] using this
    -- The later runs start from what this one saved last, which is where its course has led to.
    · obtain rfl : result = .error error := hresult
      have hslot' : w'.vault.slot = .memory (lastSaved blob trace) := by
        have hheld := hfollows.slot hslot
        rwa [lastSaved_append, hscrap.lastSaved_eq] at hheld
      have hload' : w'.vault.refuseLoad = none := hfollows.refuseLoad_eq.trans hload
      have hlater := ih hslot' hload' (hcourse.restore_lastSaved hrestore)
      have hrecorded : linesRecorded (trace ++ tail) = linesRead trace := by
        rw [linesRecorded_course hcourse, hscrap.linesRecorded_eq, List.append_nil]
      have hall := (hscrap.covers hlater).prepend hcourse
      simpa [hevents, hrecorded] using hall

/-- The lines of a covered course are the first ones that a run writes on the lines it has read. -/
theorem Covers.prefix_of_completes {result : Except Error Unit} {ideal : List Event}
    (h : Covers r s lines out left) (hcomplete : Completes r s lines ideal result rest) :
    ∃ shown, shown <+: linesWritten ideal ∧ Stutters shown out ∧
      (left → shown = linesWritten ideal) := by
  obtain ⟨trace, s', hcourse, rfl, hout, hleft⟩ := h
  refine ⟨linesWritten trace, ?_, hout, fun h => ?_⟩
  · obtain ⟨course, tail, s'', hcourse', hend, rfl, hlines⟩ := hcomplete
    have hstart : linesRead trace ++ [] = linesRead (course ++ tail) ++ rest := by
      simpa using hlines
    obtain ⟨more, rfl, -⟩ := hcourse.exists_append hcourse' hend hstart
    exact ⟨linesWritten more ++ linesWritten tail, by simp⟩
  · have hend : (next r s' none).Ends [.saved []] (.ok ()) [] := hleft h ▸ .leave
    have hwhole : Completes r s (linesRead trace) (trace ++ [.saved []]) (.ok ()) [] :=
      ⟨trace, _, s', hcourse, hend, rfl, by simp⟩
    obtain ⟨rfl, -, -⟩ := hwhole.unique hcomplete
    simp

theorem attempts_of_restore_error {error : DecodeError} (n : Nat)
    (hslot : w.vault.slot = .memory blob) (hload : w.vault.refuseLoad = none)
    (hrestore : Snapshot.restore blob = .error error) :
    ∀ a ∈ attempts r n w, a = ⟨.error (.snapshot (.decode error)), []⟩ := by
  induction n generalizing w with
  | zero => simp [attempts]
  | succ n ih =>
    have hrun := run_of_restore_error (r := r) (w := { w with newest := [] }) hslot hload hrestore
    have hlater := ih (w := { w with newest := [] }) hslot hload
    rw [attempts, hrun]
    intro a ha
    rcases List.mem_cons.1 ha with rfl | ha
    · rfl
    · exact hlater a ha

/-- Lines are written at least once, in order: however calls of the channel and of the slot are
refused, before or after their effect, and however often the session is run again, the lines that
have reached the channel are a first part of the lines that one run without refusals writes on the
recorded lines alone, with repetitions in place. They are all of them once a run has ended well. -/
theorem stutters_attempts (r : Registry) (blob : Bytes) (lines : List String)
    (refuseCall : Nat → Option (Moment × String)) (refuseStore : Nat → Option String) (n : Nat) :
    let runs := attempts r n (Rehearsal.opening blob lines refuseCall refuseStore)
    let recorded := runs.flatMap fun a => linesRecorded a.events
    let ideal := linesWritten (run r (Rehearsal.opening blob recorded)).2.events
    ∃ shown, shown <+: ideal ∧ Stutters shown (runs.flatMap fun a => linesWritten a.events) ∧
      ((∃ a ∈ runs, a.result = .ok ()) → shown = ideal) := by
  intro runs recorded ideal
  cases hrestore : Snapshot.restore blob with
  | error error =>
    have hruns : ∀ a ∈ runs, a = _ := attempts_of_restore_error n rfl rfl hrestore
    have hnone : runs.flatMap (fun a => linesWritten a.events) = [] := by
      rw [List.flatMap_eq_nil_iff]
      intro a ha
      rw [hruns a ha]
      rfl
    refine ⟨[], List.nil_prefix, hnone ▸ .nil, ?_⟩
    rintro ⟨a, ha, hresult⟩
    rw [hruns a ha] at hresult
    cases hresult
  | ok s =>
    have hcovers := covers_attempts (r := r)
      (w := Rehearsal.opening blob lines refuseCall refuseStore) n rfl rfl hrestore
    obtain ⟨trace, hcomplete, hfollows⟩ := run_opening r recorded hrestore
    have hideal : ideal = linesWritten trace := congrArg linesWritten hfollows.events_eq
    rw [hideal]
    exact hcovers.prefix_of_completes hcomplete

end Session

end DurableCalc
