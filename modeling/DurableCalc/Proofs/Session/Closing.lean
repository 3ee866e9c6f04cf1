import DurableCalc.Proofs.Session.Passage

/-!
# The end of a session and its slot

A session ends well by emptying its slot, and it empties the slot by nothing else: every other blob
that it saves is that of a snapshot. So the last attempt to save tells how a run has ended, and a
run that fails leaves in the slot what the slot held before or the snapshot that was saved last.
-/

namespace DurableCalc

open Event

namespace Event

def isStore : Event → Bool
  | .saved _ | .saveRefused => true
  | _ => false

def lastStore? (trace : List Event) : Option Event :=
  (trace.filter isStore).getLast?

variable {trace before after : List Event} {event : Event} {blob : Bytes}

theorem mem_of_lastStore? (h : lastStore? trace = some event) : event ∈ trace :=
  (List.mem_filter.1 (List.mem_of_getLast? h)).1

theorem lastStore?_concat (hstore : event.isStore = true) :
    lastStore? (trace ++ [event]) = some event := by
  rw [lastStore?, List.filter_append, List.filter_cons_of_pos hstore]
  exact List.getLast?_concat

theorem eq_nil_of_notMem (hnew : event ∉ trace)
    (h : trace ++ [event] = before ++ event :: after) : after = [] := by
  by_contra hne
  have hdrop : trace = before ++ (event :: after).dropLast := by
    rw [← List.dropLast_append_of_ne_nil (List.cons_ne_nil event after), ← h,
      List.dropLast_concat]
  apply hnew
  rw [hdrop, List.dropLast_cons_of_ne_nil hne]
  exact List.mem_append_right before List.mem_cons_self

theorem lastSaved_ne_nil (hblob : blob ≠ []) (h : .saved [] ∉ trace) :
    lastSaved blob trace ≠ [] := by
  intro hnil
  rcases lastSaved_mem trace blob with heq | hmem
  · exact hblob (heq.symm.trans hnil)
  · exact h (hnil ▸ hmem)

end Event

namespace Session

variable {r : Registry} {s s' : Snapshot} {w : Rehearsal} {blob : Bytes} {trace tail : List Event}
  {result : Except Error Unit} {rest : List String}

/-- What a course saves is the blob of a snapshot, which is never empty. -/
theorem Course.saved_nil_notMem (h : Course r s trace s') : .saved [] ∉ trace := by
  induction h with
  | refl s => exact List.not_mem_nil
  | @cons s s' s'' visible trace hact hcourse ih =>
    obtain ⟨k, hdoes⟩ := hact.exists_does
    simp only [List.mem_append, List.mem_cons, not_or]
    refine ⟨hdoes.saved_notMem [], fun h => ?_, ih⟩
    exact Snapshot.encode_ne_nil s' (Event.saved.inj h).symm

/-- A session that ends by itself empties the slot and ends well, or it fails and saves nothing. -/
theorem Halt.closes_or_fails (h : Halt r s tail result rest) :
    (result = .ok () ∧ tail = [.saved []]) ∨
      ∃ error, result = .error error ∧ .saved [] ∉ tail := by
  cases h with
  | leave hpending hdemand => exact .inl ⟨rfl, rfl⟩
  | _ => exact .inr ⟨_, rfl, by simp⟩

/-- A run ends well with the empty blob, which it has not saved before, or it fails, does not save
the empty blob at all and leaves in the slot what was saved last. -/
theorem run_closes_or_fails (r : Registry) (hslot : w.vault.slot = .memory blob) :
    (∃ trace, (run r w).1 = .ok () ∧ (run r w).2.events = w.events ++ (trace ++ [.saved []]) ∧
      .saved [] ∉ trace) ∨
    ∃ trace error, (run r w).1 = .error error ∧ (run r w).2.events = w.events ++ trace ∧
      .saved [] ∉ trace ∧ (run r w).2.vault.slot = .memory (lastSaved blob trace) := by
  rcases resume_or_fails hslot with ⟨error, hresume⟩ | ⟨c, hresume, -⟩
  · rw [run_of_resume_error hresume]
    exact .inr ⟨[], _, rfl, (List.append_nil _).symm, List.not_mem_nil, hslot⟩
  · obtain ⟨trace, s', w₁, hcourse, hfollows, hstops⟩ :=
      passage_machine (r := r) hslot c none trivial
    have hcourse_nil := hcourse.saved_nil_notMem
    rw [run_of_resume hresume]
    generalize ((machine r).run c none w).1 = result at hstops ⊢
    generalize ((machine r).run c none w).2.2 = w' at hstops ⊢
    cases hstops with
    | @ended tail _ _ hend hfollows' =>
      have hthrough := hfollows.trans hfollows'
      rcases (halt_of_ends hend).closes_or_fails with ⟨rfl, rfl⟩ | ⟨error, rfl, htail⟩
      · exact .inl ⟨trace, rfl, hthrough.events_eq, hcourse_nil⟩
      · refine .inr ⟨trace ++ tail, error, rfl, hthrough.events_eq, ?_, hthrough.slot hslot⟩
        exact List.not_mem_append hcourse_nil htail
    | @broken fault tail _ hbreak hfollows' _ =>
      have hthrough := hfollows.trans hfollows'
      refine .inr ⟨trace ++ tail, fault.error, rfl, hthrough.events_eq, ?_, hthrough.slot hslot⟩
      exact List.not_mem_append hcourse_nil (hbreak.saved_notMem [])

/-- The end of a session and its slot agree, whatever the slot holds and whatever is refused, the
slot's blob included. A run ends well exactly if its last attempt to save has emptied the slot.
Nothing is seen of a run after that. A run that fails leaves in the slot what it has saved last, or
what was there before, and so does not empty it. -/
theorem ok_iff_emptied (r : Registry) (blob : Bytes) (lines : List String)
    (refuseCall : Nat → Option (Moment × String)) (refuseStore : Nat → Option String)
    (refuseLoad : Option String) :
    let opened := Rehearsal.opening blob lines refuseCall refuseStore
    let final := run r { opened with vault := { opened.vault with refuseLoad } }
    (final.1 = .ok () ↔ lastStore? final.2.events = some (.saved [])) ∧
      (∀ before after, final.2.events = before ++ .saved [] :: after → after = []) ∧
      ∀ error, final.1 = .error error →
        final.2.vault.slot = .memory (lastSaved blob final.2.events) ∧
          (blob ≠ [] → lastSaved blob final.2.events ≠ []) := by
  intro opened final
  rcases run_closes_or_fails (w := { opened with vault := { opened.vault with refuseLoad } }) r rfl
    with ⟨trace, hresult, hevents, hnew⟩ | ⟨trace, error, hresult, hevents, hnew, hslot⟩
  · have hresult : final.1 = .ok () := hresult
    have hevents : final.2.events = trace ++ [.saved []] := hevents
    rw [hresult, hevents]
    refine ⟨iff_of_true rfl (lastStore?_concat rfl), ?_, ?_⟩
    · intro before after h
      exact eq_nil_of_notMem hnew h
    · rintro error ⟨⟩
  · have hresult : final.1 = .error error := hresult
    have hevents : final.2.events = trace := hevents
    rw [hresult, hevents]
    refine ⟨iff_of_false (by simp) fun h => hnew (mem_of_lastStore? h), ?_, ?_⟩
    · rintro before after rfl
      exact absurd (List.mem_append_right before List.mem_cons_self) hnew
    · rintro _ ⟨⟩
      exact ⟨hslot, fun hblob => lastSaved_ne_nil hblob hnew⟩

end Session

end DurableCalc
