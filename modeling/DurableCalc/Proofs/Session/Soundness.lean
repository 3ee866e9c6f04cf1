import DurableCalc.Proofs.Command.Names
import DurableCalc.Proofs.Generator
import DurableCalc.Proofs.Session.Passage

/-!
# What a slot may hold

A slot that was empty at first holds, at every moment of every sequence of runs, nothing or a sound
snapshot: one within its bounds, with a state of the generator, whose pending line calls the command
of its progress. Calls of the channel and of the slot may be refused, a run may be cut off anywhere,
and each run has its own limit on counts. No run refuses what an earlier one has saved.
-/

namespace DurableCalc

open Event

def Progress.Sound (limit : Nat) : Progress → Prop
  | .sum p => p.second ≠ none → p.first ≠ none
  | .median p => ∀ count, p.count = some count → count.toNat ≤ limit
  | .randomSequence p => ∀ count, p.count = some count → count.toNat ≤ limit
  | .help p =>
    p.introCursor.toNat ≤ 3 ∧ (p.topic ≠ none → p.introCursor.toNat = 3) ∧
      p.topicCursor.toNat ≤ p.blockLength .standard

/-- A snapshot that a session could have saved under a limit on counts. -/
structure Snapshot.Sound (limit : Nat) (s : Snapshot) : Prop where
  fault?_eq : s.fault? = none
  rngState : 1 ≤ s.rngState.toInt ∧ s.rngState.toInt ≤ 2147483646
  pendingInput : ∀ p, s.command = some p → ∃ line, s.pendingInput = some line ∧
    Text.fold (Text.trim line) ≠ Session.exitKeyword ∧
    ∀ maxCount, ∃ c, (Registry.standard maxCount).lookup (Text.trim line) = some c ∧ c.kind = p.kind
  command : ∀ p, s.command = some p → p.Sound limit

theorem Progress.Sound.mono {limit limit' : Nat} {p : Progress} (h : p.Sound limit)
    (hle : limit ≤ limit') : p.Sound limit' := by
  cases p with
  | sum p => exact h
  | median p => exact fun count hcount => Nat.le_trans (h count hcount) hle
  | randomSequence p => exact fun count hcount => Nat.le_trans (h count hcount) hle
  | help p => exact h

theorem Snapshot.Sound.mono {limit limit' : Nat} {s : Snapshot} (h : s.Sound limit)
    (hle : limit ≤ limit') : s.Sound limit' :=
  ⟨h.fault?_eq, h.rngState, h.pendingInput, fun p hp => (h.command p hp).mono hle⟩

theorem Snapshot.Sound.of_command_none {limit : Nat} {s : Snapshot} (hcommand : s.command = none)
    (hrng : 1 ≤ s.rngState.toInt ∧ s.rngState.toInt ≤ 2147483646) : s.Sound limit where
  fault?_eq := by rw [Snapshot.fault?_eq_none_iff, hcommand]; simp
  rngState := hrng
  pendingInput := by rw [hcommand]; simp
  command := by rw [hcommand]; simp

theorem Snapshot.sound_fresh (limit : Nat) : Snapshot.fresh.Sound limit :=
  .of_command_none rfl (by decide)

theorem Job.sound_start {limit : Nat} {c : Command} {s : Snapshot}
    (hsound : ∀ p, s.command = some p → p.Sound limit)
    (hkind : ∀ p, s.command = some p → p.kind = c.kind) : (start c s).progress.Sound limit := by
  cases hcommand : s.command with
  | none =>
    rw [start_of_command_none hcommand]
    cases c with
    | sum => exact fun h => absurd rfl h
    | median maxCount => exact fun count hcount => by cases hcount
    | randomSequence maxCount => exact fun count hcount => by cases hcount
    | help guide => exact ⟨Nat.zero_le 3, fun h => absurd rfl h, Nat.zero_le 0⟩
  | some p =>
    rw [progress_start hcommand (hkind p hcommand)]
    exact hsound p hcommand

/-- A step of a standard command keeps its progress sound. -/
theorem Job.Grows.sound {limit : Nat} {maxCount : UInt32} {k : Kind} {job job' : Job}
    {rng rng' : Int64} {visible : List Event} (h : job.Grows rng visible job' rng')
    (hsound : job.progress.Sound limit) (hcommand : job.command = .standard maxCount k)
    (hle : maxCount.toNat ≤ limit) : job'.progress.Sound limit := by
  cases h with
  | first hfirst hread => exact fun _ => by simp
  | second hfirst hsecond hread => exact fun _ => hfirst
  | medianCount hcount hread =>
    cases k <;> cases hcommand
    rintro _ ⟨⟩
    exact Nat.le_trans (UInt32.le_iff_toNat_le.1 (le_of_readCount hread)) hle
  | value hcount hlt hread => exact hsound
  | randomCount hcount hread =>
    cases k <;> cases hcommand
    rintro _ ⟨⟩
    exact Nat.le_trans (UInt32.le_iff_toNat_le.1 (le_of_readCount hread)) hle
  | draw hcount hlt => exact hsound
  | @intro _ p _ _ hlt hline htopic =>
    obtain ⟨hintro, hthree, hcursor⟩ := hsound
    have hnext := HelpProgress.toNat_add_one hlt
    have hnone : p.topic = none := by
      by_contra h
      have := hthree h
      omega
    exact ⟨by simp only [hnext]; omega, fun h => absurd hnone h, hcursor⟩
  | @topic _ p _ topic hintro htopic hcursor =>
    exact ⟨hintro.le, fun _ => hintro, hcursor ▸ Nat.zero_le _⟩
  | @line guide p _ topic _ hintro htopic hstay hline =>
    cases k <;> cases hcommand
    have hlt := (List.getElem?_eq_some_iff.1 hline).1
    have hblock := Guide.standard.length_block_le topic
    have hnext : (p.topicCursor + 1).toNat = p.topicCursor.toNat + 1 :=
      HelpProgress.toNat_add_one (by omega)
    refine ⟨hintro.le, fun _ => hintro, ?_⟩
    simp only [HelpProgress.blockLength, htopic, hnext]
    omega
  | leave hintro htopic hstay hcursor =>
    exact ⟨hintro.le, fun h => absurd rfl h, Nat.zero_le _⟩

/-- A standard job whose progress is sound can go on. -/
theorem Job.next_ne_refuse {limit : Nat} {maxCount : UInt32} {k : Kind} {job : Job}
    (hsound : job.progress.Sound limit) (hcommand : job.command = .standard maxCount k)
    (error : SnapshotError) : job.next ≠ .refuse error := by
  intro h
  obtain ⟨guide, p, rfl, hover⟩ := exists_next_eq_refuse_iff.1 ⟨error, h⟩
  obtain ⟨hintro, -, hcursor⟩ := hsound
  cases k <;> cases hcommand
  rw [HelpProgress.Overrun, Guide.length_intro] at hover
  omega

namespace Session

variable {limit : Nat} {maxCount : UInt32} {s s' : Snapshot} {visible trace tail : List Event}
  {blob : Bytes}

/-- The job that a standard session works on is a standard one, called by the pending line. -/
theorem AtWork.standard {job : Job} (h : AtWork (.standard maxCount) s job) :
    ∃ line k, s.pendingInput = some line ∧ Text.fold (Text.trim line) ≠ exitKeyword ∧
      Kind.called (Text.fold (Text.trim line)) = some k ∧ job.command = .standard maxCount k := by
  obtain ⟨line, hpending, hdemand⟩ := h
  obtain ⟨hexit, hlookup, -, -⟩ := demand_eq_work_iff.1 hdemand
  rw [Registry.lookup_standard, Text.trim_trim] at hlookup
  obtain ⟨k, hcalled, hstandard⟩ := Option.map_eq_some_iff.1 hlookup
  exact ⟨line, k, hpending, hexit, hcalled, hstandard.symm⟩

theorem AtWork.sound {r : Registry} {job : Job} (h : AtWork r s job) (hsound : s.Sound limit) :
    job.progress.Sound limit := by
  obtain ⟨line, -, hdemand⟩ := h
  obtain ⟨-, -, hkind, hstart⟩ := demand_eq_work_iff.1 hdemand
  rw [hstart]
  exact Job.sound_start hsound.command hkind

theorem Act.sound (h : Act (.standard maxCount) s visible s') (hsound : s.Sound limit)
    (hle : maxCount.toNat ≤ limit) : s'.Sound limit := by
  have hfault := h.fault? hsound.fault?_eq
  cases h with
  | take hidle line =>
    have hcommand := Snapshot.command_eq_none hsound.fault?_eq hidle
    exact .of_command_none hcommand hsound.rngState
  | unknown hpending hdemand => exact .of_command_none rfl hsound.rngState
  | conclude hwork hnext => exact .of_command_none rfl hsound.rngState
  | finish hwork hnext => exact .of_command_none rfl hsound.rngState
  | @work job job' rng _ hwork hdoes =>
    obtain ⟨line, k, hpending, hexit, hcalled, hstandard⟩ := hwork.standard
    have hgrows := Job.grows_of_does hdoes
    refine ⟨hfault, ?_, ?_, ?_⟩
    · cases hgrows with
      | draw hcount hlt => exact Generator.next_range hsound.rngState
      | _ => exact hsound.rngState
    · rintro _ ⟨⟩
      refine ⟨line, hpending, hexit, fun maxCount' => ⟨.standard maxCount' k, ?_, ?_⟩⟩
      · rw [Registry.lookup_standard, Text.trim_trim, hcalled]
        rfl
      · rw [Job.kind_progress, hgrows.command_eq, hstandard, Command.kind_standard,
          Command.kind_standard]
    · rintro _ ⟨⟩
      exact hgrows.sound (hwork.sound hsound) hstandard hle

/-- A standard session works on the job of a sound snapshot, or has none to work on. -/
theorem demand_ne_refuse (hsound : s.Sound limit) {line : String}
    (hpending : s.pendingInput = some line) (error : SnapshotError) :
    demand (.standard maxCount) s line ≠ .refuse error := by
  intro h
  cases hcommand : s.command with
  | none =>
    by_cases hexit : Text.fold (Text.trim line) = exitKeyword
    · simp [demand, hexit] at h
    · cases hlookup : (Registry.standard maxCount).lookup (Text.trim line) <;>
        simp [demand, hexit, hlookup, hcommand] at h
  | some p =>
    obtain ⟨line', hpending', hexit, hlookup⟩ := hsound.pendingInput p hcommand
    rw [hpending] at hpending'
    cases hpending'
    obtain ⟨c, hc, hkind⟩ := hlookup maxCount
    simp [demand, hexit, hc, hcommand, hkind] at h

theorem Halt.ne_snapshot {result : Except Error Unit} {rest : List String}
    (h : Halt (.standard maxCount) s tail result rest) (hsound : s.Sound limit)
    (error : SnapshotError) : result ≠ .error (.snapshot error) := by
  cases h with
  | foreign hpending hdemand => exact absurd hdemand (demand_ne_refuse hsound hpending _)
  | @refuse job error' _ hwork hnext =>
    obtain ⟨line, k, -, -, -, hstandard⟩ := hwork.standard
    exact absurd hnext (Job.next_ne_refuse (hwork.sound hsound) hstandard error')
  | _ => simp

/-- What a course saves are the blobs of sound snapshots. -/
theorem Course.saved_sound (h : Course (.standard maxCount) s trace s') (hsound : s.Sound limit)
    (hle : maxCount.toNat ≤ limit) :
    s'.Sound limit ∧ ∀ blob, .saved blob ∈ trace →
      ∃ held, Snapshot.decode blob = .ok (some held) ∧ held.Sound limit := by
  induction h with
  | refl s => exact ⟨hsound, by simp⟩
  | @cons s s' s'' visible trace hact hcourse ih =>
    have hsound' := hact.sound hsound hle
    obtain ⟨hlast, hsaved⟩ := ih hsound'
    refine ⟨hlast, fun blob hblob => ?_⟩
    obtain ⟨k, hdoes⟩ := hact.exists_does
    rcases List.mem_append.1 hblob with hblob | hblob
    · exact absurd hblob (hdoes.saved_notMem blob)
    rcases List.mem_cons.1 hblob with hblob | hblob
    · cases hblob
      refine ⟨s', ?_, hsound'⟩
      rw [Snapshot.decode_encode, hsound'.fault?_eq]
    · exact hsaved blob hblob

end Session

structure Visit where
  maxCount : UInt32
  lines : List String
  refuseCall : Nat → Option (Moment × String) := fun _ => none
  refuseStore : Nat → Option String := fun _ => none

namespace Visit

def run (v : Visit) (blob : Bytes) : Except Error Unit × Rehearsal :=
  Session.run (.standard v.maxCount)
    (Rehearsal.opening blob v.lines v.refuseCall v.refuseStore)

theorem slot_run (v : Visit) (blob : Bytes) :
    (v.run blob).2.vault.slot = .memory (lastSaved blob (v.run blob).2.events) := by
  obtain ⟨trace, hevents, hslot⟩ := Session.slot_run (.standard v.maxCount)
    (w := Rehearsal.opening blob v.lines v.refuseCall v.refuseStore) rfl rfl
  have htrace : (v.run blob).2.events = trace := hevents
  rw [htrace]
  exact hslot

end Visit

/-- The blobs that a slot holds in the course of any visits, when it was empty at first, each with
the greatest limit so far. A visit may be cut off after any of its events. -/
inductive Reached : Nat → Bytes → Prop
  | empty : Reached 0 []
  | visit {limit : Nat} {blob : Bytes} {seen : List Event} (h : Reached limit blob) (v : Visit)
      (hseen : seen <+: (v.run blob).2.events) :
      Reached (max limit v.maxCount.toNat) (lastSaved blob seen)

def Holds (limit : Nat) (blob : Bytes) : Prop :=
  blob = [] ∨ ∃ s, Snapshot.decode blob = .ok (some s) ∧ s.Sound limit

theorem Holds.mono {limit limit' : Nat} {blob : Bytes} (h : Holds limit blob)
    (hle : limit ≤ limit') : Holds limit' blob :=
  h.imp_right fun ⟨s, hdecode, hsound⟩ => ⟨s, hdecode, hsound.mono hle⟩

theorem Holds.restore {limit : Nat} {blob : Bytes} (h : Holds limit blob) :
    ∃ s, Snapshot.restore blob = .ok s ∧ s.Sound limit := by
  rcases h with rfl | ⟨s, hdecode, hsound⟩
  · exact ⟨.fresh, rfl, Snapshot.sound_fresh limit⟩
  · exact ⟨s, by rw [Snapshot.restore, hdecode]; rfl, hsound⟩

namespace Visit

variable {limit : Nat} {blob : Bytes}

/-- A visit to a sound slot saves nothing but what is sound, and does not refuse the slot. -/
theorem run_sound (v : Visit) (h : Holds limit blob) (hle : v.maxCount.toNat ≤ limit) :
    (∀ saved, .saved saved ∈ (v.run blob).2.events → Holds limit saved) ∧
      ∀ error, (v.run blob).1 ≠ .error (.snapshot error) := by
  obtain ⟨s, hrestore, hsound⟩ := h.restore
  have hpassage : Session.Passage (.standard v.maxCount) s _ (v.run blob).1 (v.run blob).2 :=
    Session.passage_run rfl rfl hrestore
  obtain ⟨trace, s', w₁, hcourse, hfollows, hstops⟩ := hpassage
  obtain ⟨hsound', hsaved⟩ := hcourse.saved_sound hsound hle
  have hcases {tail : List Event} (htail : ∀ saved, .saved saved ∈ tail → saved = [])
      {w' : Rehearsal} (hevents : w'.events = trace ++ tail) :
      ∀ saved, .saved saved ∈ w'.events → Holds limit saved := by
    intro saved hmem
    rw [hevents, List.mem_append] at hmem
    exact hmem.elim (fun h => .inr (hsaved saved h)) fun h => .inl (htail saved h)
  generalize (v.run blob).1 = result at hstops ⊢
  generalize (v.run blob).2 = w' at hstops ⊢
  cases hstops with
  | ended hend hfollows' =>
    refine ⟨hcases (fun _ => hend.eq_nil_of_saved) (hfollows.trans hfollows').events_eq, ?_⟩
    exact (Session.halt_of_ends hend).ne_snapshot hsound'
  | @broken fault _ _ hbreak hfollows' _ =>
    refine ⟨hcases (fun saved h => absurd h (hbreak.saved_notMem saved))
      (hfollows.trans hfollows').events_eq, ?_⟩
    cases fault <;> simp [Fault.error]

end Visit

theorem Reached.holds {limit : Nat} {blob : Bytes} (h : Reached limit blob) :
    Holds limit blob := by
  induction h with
  | empty => exact .inl rfl
  | @visit limit blob seen _ v hseen ih =>
    have hholds : Holds (max limit v.maxCount.toNat) blob := ih.mono (Nat.le_max_left _ _)
    rcases lastSaved_mem seen blob with heq | hmem
    · rw [heq]
      exact hholds
    · exact (v.run_sound hholds (Nat.le_max_right _ _)).1 _ (hseen.mem hmem)

/-- Whatever was run on a slot that was empty at first, the slot holds nothing or a sound snapshot
at every moment, and no later run, under any limit, refuses it. -/
theorem sound_of_reached {limit : Nat} {blob : Bytes} (h : Reached limit blob) :
    (blob = [] ∨ ∃ s, Snapshot.decode blob = .ok (some s) ∧ s.Sound limit) ∧
      ∀ (v : Visit) (error : SnapshotError), (v.run blob).1 ≠ .error (.snapshot error) := by
  refine ⟨h.holds, fun v => ?_⟩
  exact (v.run_sound (h.holds.mono (Nat.le_max_left _ _)) (Nat.le_max_right _ _)).2

/-- A run whose input ends while it takes values for a median, and a refused replacement in a run
under a smaller limit: what the slot holds then is sound. -/
theorem sound_of_reached_median :
    let first : Visit := { maxCount := 5, lines := ["median", "3", "-7"] }
    let second : Visit :=
      { maxCount := 1, lines := ["8", "9"]
        refuseStore := fun n => if n = 1 then some "full" else none }
    let blob := lastSaved [] (first.run []).2.events
    let blob' := lastSaved blob (second.run blob).2.events
    Reached 5 blob' ∧ (blob' = [] ∨ ∃ s, Snapshot.decode blob' = .ok (some s) ∧ s.Sound 5) ∧
      ∀ (v : Visit) (error : SnapshotError), (v.run blob').1 ≠ .error (.snapshot error) := by
  intro first second blob blob'
  have hfirst : Reached 5 blob := .visit .empty first List.prefix_rfl
  have hsecond : Reached 5 blob' := .visit hfirst second List.prefix_rfl
  exact ⟨hsecond, sound_of_reached hsecond⟩

end DurableCalc
