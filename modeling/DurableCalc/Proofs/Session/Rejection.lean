import DurableCalc.Proofs.Command.Names
import DurableCalc.Proofs.Session.Passage

/-!
# Refused snapshots

A session refuses the snapshot in its slot before it does anything else, or it never refuses one:
no act leads to a snapshot that is refused. What it refuses is told by the snapshot alone: progress
that is not of the command which the pending line calls, or a cursor of `help` past its block.
-/

namespace DurableCalc.Session

variable {r : Registry} {s s' : Snapshot} {visible trace tail : List Event} {line : String}

/-- Whether a session that is taken up from a snapshot stops at once and blames the snapshot. -/
def Refuses (r : Registry) (s : Snapshot) : Prop :=
  ∃ error, next r s none = .stop (.error (.snapshot error))

theorem Halt.refuses {error : SnapshotError} {rest : List String}
    (h : Halt r s tail (.error (.snapshot error)) rest) : Refuses r s := by
  cases h with
  | foreign hpending hdemand =>
    refine ⟨error, ?_⟩
    simp only [next, hpending, hdemand]
  | refuse hwork hnext =>
    refine ⟨error, ?_⟩
    rw [next_of_atWork hwork, workOn, hnext]
    rfl

/-- A refusal is one of the pending line or one of the job that it calls. -/
theorem refuses_iff_demand :
    Refuses r s ↔
      (∃ line error, s.pendingInput = some line ∧ demand r s line = .refuse error) ∨
        ∃ job error, AtWork r s job ∧ job.next = .refuse error := by
  constructor
  · rintro ⟨error, hstop⟩
    have hend : (next r s none).Ends [] (.error (.snapshot error)) [] := hstop ▸ .stop
    cases halt_of_ends hend with
    | foreign hpending hdemand => exact .inl ⟨_, error, hpending, hdemand⟩
    | refuse hwork hnext => exact .inr ⟨_, error, hwork, hnext⟩
  · rintro (⟨line, error, hpending, hdemand⟩ | ⟨job, error, hwork, hnext⟩)
    · have hhalt : Halt r s [] (.error (.snapshot error)) [] := .foreign hpending hdemand
      exact hhalt.refuses
    · have hhalt : Halt r s [] (.error (.snapshot error)) [] := .refuse hwork hnext
      exact hhalt.refuses

theorem exists_demand_eq_refuse_iff :
    (∃ error, demand r s line = .refuse error) ↔
      Text.fold (Text.trim line) ≠ exitKeyword ∧
        ∃ p, s.command = some p ∧ (r.lookup (Text.trim line)).map Command.kind ≠ some p.kind := by
  by_cases hexit : Text.fold (Text.trim line) = exitKeyword
  · simp [demand, hexit]
  cases hlookup : r.lookup (Text.trim line) with
  | none => cases hcommand : s.command <;> simp [demand, hexit, hlookup, hcommand]
  | some c =>
    cases hcommand : s.command with
    | none => simp [demand, hexit, hlookup, hcommand]
    | some p => by_cases hkind : c.kind = p.kind <;> simp [demand, hexit, hlookup, hcommand, hkind]

theorem not_overrun_default (guide : Guide) : ¬ ({} : HelpProgress).Overrun guide := by
  simp [HelpProgress.Overrun, HelpProgress.blockLength]

/-- A job is refused if it is `help` and goes on with saved cursors past their blocks. -/
theorem exists_job_refuse_iff :
    (∃ job error, AtWork r s job ∧ job.next = .refuse error) ↔
      ∃ line guide p, s.pendingInput = some line ∧ Text.fold (Text.trim line) ≠ exitKeyword ∧
        r.lookup (Text.trim line) = some (.help guide) ∧ s.command = some (.help p) ∧
        p.Overrun guide := by
  constructor
  · rintro ⟨job, error, ⟨line, hpending, hdemand⟩, hnext⟩
    obtain ⟨guide, p, rfl, hover⟩ := Job.exists_next_eq_refuse_iff.1 ⟨error, hnext⟩
    obtain ⟨hexit, hlookup, hkind, hstart⟩ := demand_eq_work_iff.1 hdemand
    refine ⟨line, guide, p, hpending, hexit, hlookup, ?_, hover⟩
    have hhelp : p = s.helpProgress := by simpa [Job.start, Job.command] using hstart
    cases hcommand : s.command with
    | none =>
      have hdefault : p = {} := by simpa [Snapshot.helpProgress, hcommand] using hhelp
      exact absurd (hdefault ▸ hover) (not_overrun_default guide)
    | some saved =>
      have hsaved := hkind saved hcommand
      cases saved with
      | help q =>
        obtain rfl : p = q := by simpa [Snapshot.helpProgress, hcommand] using hhelp
        rfl
      | _ => cases hsaved
  · rintro ⟨line, guide, p, hpending, hexit, hlookup, hcommand, hover⟩
    have hwork : AtWork r s (.help guide p) := by
      refine ⟨line, hpending, demand_eq_work_iff.2 ⟨hexit, hlookup, ?_, ?_⟩⟩
      · intro saved hsaved
        rw [hcommand] at hsaved
        cases hsaved
        rfl
      · exact (Job.start_command hcommand).symm
    obtain ⟨error, hnext⟩ := Job.exists_next_eq_refuse_iff.2 ⟨guide, p, rfl, hover⟩
    exact ⟨_, error, hwork, hnext⟩

/-- The snapshots that a session refuses, told by their fields. -/
theorem refuses_iff :
    Refuses r s ↔
      ∃ line, s.pendingInput = some line ∧ Text.fold (Text.trim line) ≠ exitKeyword ∧
        ((∃ p, s.command = some p ∧
            (r.lookup (Text.trim line)).map Command.kind ≠ some p.kind) ∨
          ∃ guide p, r.lookup (Text.trim line) = some (.help guide) ∧
            s.command = some (.help p) ∧ p.Overrun guide) := by
  rw [refuses_iff_demand, exists_job_refuse_iff]
  constructor
  · rintro (⟨line, error, hpending, hdemand⟩ | ⟨line, guide, p, hpending, hexit, hover⟩)
    · obtain ⟨hexit, hforeign⟩ := exists_demand_eq_refuse_iff.1 ⟨error, hdemand⟩
      exact ⟨line, hpending, hexit, .inl hforeign⟩
    · exact ⟨line, hpending, hexit, .inr ⟨guide, p, hover⟩⟩
  · rintro ⟨line, hpending, hexit, hforeign | ⟨guide, p, hover⟩⟩
    · obtain ⟨error, hdemand⟩ := exists_demand_eq_refuse_iff.2 ⟨hexit, hforeign⟩
      exact .inl ⟨line, error, hpending, hdemand⟩
    · exact .inr ⟨line, guide, p, hpending, hexit, hover⟩

theorem not_refuses_of_command_none (hcommand : s.command = none) : ¬ Refuses r s := by
  rw [refuses_iff]
  rintro ⟨line, -, -, ⟨p, hp, -⟩ | ⟨guide, p, -, hp, -⟩⟩ <;> simp [hcommand] at hp

theorem Act.not_refuses (h : Act r s visible s') (hfault : s.fault? = none) :
    ¬ Refuses r s' := by
  cases h with
  | take hidle line =>
    have hcommand := Snapshot.command_eq_none hfault hidle
    exact not_refuses_of_command_none hcommand
  | @work job job' rng _ hwork hdoes =>
    have hgrows := Job.grows_of_does hdoes
    have hwork' := hwork.stage hgrows.command_eq rng
    rw [refuses_iff_demand]
    rintro (⟨line, error, hpending, hdemand⟩ | ⟨other, error, hother, hnext⟩)
    · obtain ⟨line', hpending', hdemand'⟩ := hwork'
      rw [hpending] at hpending'
      cases hpending'
      rw [hdemand] at hdemand'
      cases hdemand'
    · rw [hother.unique hwork'] at hnext
      exact hgrows.next_ne_refuse error hnext
  | unknown hpending hdemand => exact not_refuses_of_command_none rfl
  | conclude hwork hnext => exact not_refuses_of_command_none rfl
  | finish hwork hnext => exact not_refuses_of_command_none rfl

theorem Course.not_refuses (h : Course r s trace s') (hfault : s.fault? = none)
    (hstart : ¬ Refuses r s) : ¬ Refuses r s' := by
  induction h with
  | refl s => exact hstart
  | cons hact hcourse ih => exact ih (hact.fault? hfault) (hact.not_refuses hfault)

variable {w : Rehearsal} {blob : Bytes}

theorem run_of_refuses (hslot : w.vault.slot = .memory blob) (hload : w.vault.refuseLoad = none)
    (hrestore : Snapshot.restore blob = .ok s) (hrefuses : Refuses r s) :
    ∃ error, run r w = (.error (.snapshot error), w) := by
  obtain ⟨error, hstop⟩ := hrefuses
  exact ⟨error, run_of_stop hslot hload hrestore hstop⟩

/-- A session that does not refuse the snapshot in its slot refuses none later. -/
theorem run_ne_snapshot (hslot : w.vault.slot = .memory blob) (hload : w.vault.refuseLoad = none)
    (hrestore : Snapshot.restore blob = .ok s) (hstart : ¬ Refuses r s) (error : SnapshotError) :
    (run r w).1 ≠ .error (.snapshot error) := by
  obtain ⟨trace, s', w₁, hcourse, hfollows, hstops⟩ := passage_run (r := r) hslot hload hrestore
  have hlast := hcourse.not_refuses (Snapshot.fault?_of_restore hrestore) hstart
  generalize (run r w).1 = result at hstops ⊢
  generalize (run r w).2 = w' at hstops
  intro hresult
  subst hresult
  generalize hend : Except.error (Error.snapshot error) = result at hstops
  cases hstops with
  | ended hend' _ =>
    subst hend
    exact hlast (halt_of_ends hend').refuses
  | @broken fault _ _ _ _ _ => cases fault <;> cases hend

/-- A snapshot that a session under a limit on counts cannot go on from: its pending line does not
leave, and its progress is not of the command that the line calls, or is that of `help` with a
cursor past its block. -/
def Unfit (maxCount : UInt32) (s : Snapshot) : Prop :=
  ∃ line, s.pendingInput = some line ∧ Text.fold (Text.trim line) ≠ exitKeyword ∧
    ((∃ p, s.command = some p ∧
        ((Registry.standard maxCount).lookup (Text.trim line)).map Command.kind ≠ some p.kind) ∨
      ∃ p, s.command = some (.help p) ∧ p.Overrun .standard)

theorem refuses_standard_iff {maxCount : UInt32} :
    Refuses (.standard maxCount) s ↔ Unfit maxCount s := by
  rw [refuses_iff]
  refine exists_congr fun line => and_congr_right fun _ => and_congr_right fun _ => ?_
  constructor
  · rintro (hforeign | ⟨guide, p, hlookup, hcommand, hover⟩)
    · exact .inl hforeign
    · rw [Registry.lookup_standard] at hlookup
      obtain ⟨k, -, hstandard⟩ := Option.map_eq_some_iff.1 hlookup
      cases k <;> cases hstandard
      exact .inr ⟨p, hcommand, hover⟩
  · rintro (hforeign | ⟨p, hcommand, hover⟩)
    · exact .inl hforeign
    -- Progress of `help` is foreign to a line that does not call `help`, whatever its cursors.
    · rw [Registry.lookup_standard]
      cases Kind.called (Text.fold (Text.trim (Text.trim line))) with
      | none => exact .inl ⟨.help p, hcommand, by simp⟩
      | some k =>
        cases k with
        | help => exact .inr ⟨.standard, p, rfl, hcommand, hover⟩
        | _ => exact .inl ⟨.help p, hcommand, by simp [Progress.kind]⟩

/-- A session refuses what its slot holds exactly if that is no blob of a snapshot or the blob of an
unfit one. It then leaves the world as it was: no line is read or written, and no blob is offered to
the slot. -/
theorem exists_snapshot_error_iff (maxCount : UInt32) (blob : Bytes) (lines : List String)
    (refuseCall : Nat → Option (Moment × String)) (refuseStore : Nat → Option String) :
    let w := Rehearsal.opening blob lines refuseCall refuseStore
    ((∃ error, (run (.standard maxCount) w).1 = .error (.snapshot error)) ↔
      (∃ error, Snapshot.decode blob = .error error) ∨
        ∃ s, Snapshot.decode blob = .ok (some s) ∧ Unfit maxCount s) ∧
    ∀ error, (run (.standard maxCount) w).1 = .error (.snapshot error) →
      (run (.standard maxCount) w).2 = w := by
  intro w
  cases hdecode : Snapshot.decode blob with
  | error error =>
    have hrestore : Snapshot.restore blob = .error error := by
      rw [Snapshot.restore, hdecode]
      rfl
    have hrun : run (.standard maxCount) w = (.error (.snapshot (.decode error)), w) :=
      run_of_restore_error rfl rfl hrestore
    simp [hrun]
  | ok held =>
    have hrestore : Snapshot.restore blob = .ok (held.getD .fresh) := by
      rw [Snapshot.restore, hdecode]
      rfl
    have hunfit : Refuses (.standard maxCount) (held.getD .fresh) ↔
        ∃ s, held = some s ∧ Unfit maxCount s := by
      cases held with
      | none => simpa using not_refuses_of_command_none (s := .fresh) rfl
      | some s => simpa using refuses_standard_iff
    by_cases hrefuses : Refuses (.standard maxCount) (held.getD .fresh)
    · obtain ⟨error, hrun⟩ := run_of_refuses (w := w) rfl rfl hrestore hrefuses
      simpa [hrun] using hunfit.1 hrefuses
    · have hresult := run_ne_snapshot (w := w) rfl rfl hrestore hrefuses
      simpa [hresult] using mt hunfit.2 hrefuses

end DurableCalc.Session
