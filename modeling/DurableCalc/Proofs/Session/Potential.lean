import DurableCalc.Proofs.Session.Lockstep
import DurableCalc.Proofs.Session.Soundness

/-!
# The potential of a session

Every move of a session after which it goes on uses up some of a potential, which is made of the
lines that are left and of the work that the saved progress of the pending command still stands for.
So a session stops after as many moves as its potential at most, each of them with two calls at
most, whatever the slot held at first and whatever is refused.
-/

namespace DurableCalc

open Event

namespace Machine

variable {σ ω : Type} [World ω] {M : Machine σ} {c c' : Checkpointer} {k k' : σ} {w w' : ω}

def Precedes (M : Machine σ) (c : Checkpointer) (k : σ) (w : ω) (c' : Checkpointer) (k' : σ)
    (w' : ω) : Prop :=
  ∃ c₁ k₁ w₁, carryOut (M.next c.snapshot k) c w = .going c₁ k₁ w₁ ∧ M.Passes c₁ k₁ w₁ c' k' w'

/-- The machine makes so many moves after which it goes on, and stops with the next one. -/
inductive StopsAfter (M : Machine σ) :
    Nat → Checkpointer → σ → ω → Except Error Unit × Checkpointer × ω → Prop
  | now {c c' : Checkpointer} {k : σ} {w w' : ω} {result : Except Error Unit}
      (hover : carryOut (M.next c.snapshot k) c w = .over result c' w') :
      StopsAfter M 0 c k w (result, c', w')
  | later {n : Nat} {c c₁ : Checkpointer} {k k₁ : σ} {w w₁ : ω}
      {final : Except Error Unit × Checkpointer × ω}
      (hgoing : carryOut (M.next c.snapshot k) c w = .going c₁ k₁ w₁)
      (hstops : StopsAfter M n c₁ k₁ w₁ final) : StopsAfter M (n + 1) c k w final

end Machine

namespace Rehearsal

def calls (w : Rehearsal) : Nat :=
  w.channelCalls + w.vault.storeCalls

theorem vault_takeLine (w : Rehearsal) : w.takeLine.2.vault = w.vault := by
  unfold takeLine
  split <;> rfl

theorem vault_readLine (w : Rehearsal) : w.readLine.2.vault = w.vault := by
  unfold readLine
  split
  · exact vault_takeLine w.countCall
  · rfl
  · exact vault_takeLine w.countCall

theorem vault_writeLine (line : String) (w : Rehearsal) :
    (w.writeLine line).2.vault = w.vault := by
  unfold writeLine
  split <;> rfl

theorem storeCalls_store (blob : Bytes) (w : Rehearsal) :
    (w.store blob).2.vault.storeCalls = w.vault.storeCalls + 1 := by
  show (w.vault.store blob).2.storeCalls = _
  unfold Vault.store
  dsimp only
  split <;> rfl

theorem storeCalls_saveThen (s : Snapshot) (k : σ) (c : Checkpointer) (w : Rehearsal) :
    (Machine.saveThen s k c w).world.vault.storeCalls = w.vault.storeCalls + 1 :=
  (Machine.observe_saveThen (fun w => w.vault.storeCalls) (fun _ _ => rfl) s k c w).trans
    (storeCalls_store s.encode w)

theorem storeCalls_carryOut_le (move : Move σ) (c : Checkpointer) (w : Rehearsal) :
    (Machine.carryOut move c w).world.vault.storeCalls ≤ w.vault.storeCalls + 1 := by
  cases move with
  | ask accept =>
    have hread := vault_readLine w
    have hworld : World.readLine w = w.readLine := rfl
    simp only [Machine.carryOut_eq, hworld]
    generalize w.readLine = attempt at hread ⊢
    obtain ⟨result, w'⟩ := attempt
    rw [← hread]
    cases result with
    | error error => exact Nat.le_succ _
    | ok line =>
      dsimp only
      split
      · exact Nat.le_succ _
      · exact (storeCalls_saveThen ..).le
  | tell entries line s k =>
    have hwrite := vault_writeLine line w
    have hworld : World.writeLine line (World.noteAll entries w) = w.writeLine line := by
      rw [noteAll_eq]
      rfl
    simp only [Machine.carryOut_eq, hworld]
    generalize w.writeLine line = attempt at hwrite ⊢
    obtain ⟨result, w'⟩ := attempt
    rw [← hwrite]
    cases result with
    | error error => exact Nat.le_succ _
    | ok _ => exact (storeCalls_saveThen ..).le
  | save s k => exact (storeCalls_saveThen s k c w).le
  | conclude line =>
    have hwrite := congrArg Vault.storeCalls (vault_writeLine line w)
    exact hwrite.trans_le (Nat.le_succ _)
  | leave =>
    have hstore := storeCalls_store [] w
    have hworld : World.store none [] w = w.store [] := rfl
    simp only [Machine.carryOut_eq, Checkpointer.clear_eq, hworld]
    generalize w.store [] = attempt at hstore ⊢
    obtain ⟨result, w'⟩ := attempt
    cases result <;> exact hstore.le
  | stop result => exact Nat.le_succ _

theorem calls_carryOut_le (move : Move σ) (c : Checkpointer) (w : Rehearsal) :
    (Machine.carryOut move c w).world.calls ≤ w.calls + 2 := by
  have hchannel := channelCalls_carryOut move c w
  have hstore := storeCalls_carryOut_le move c w
  unfold calls
  split at hchannel <;> omega

theorem calls_of_stopsAfter {M : Machine σ} {n : Nat} {c : Checkpointer} {k : σ} {w : Rehearsal}
    {final : Except Error Unit × Checkpointer × Rehearsal} (h : M.StopsAfter n c k w final) :
    final.2.2.calls ≤ w.calls + 2 * (n + 1) := by
  induction h with
  | @now c c' k w w' result hover =>
    have hcalls := calls_carryOut_le (M.next c.snapshot k) c w
    rw [hover] at hcalls
    exact hcalls
  | @later n c c₁ k k₁ w w₁ final hgoing _ ih =>
    have hcalls := calls_carryOut_le (M.next c.snapshot k) c w
    rw [hgoing] at hcalls
    have hcalls₁ : w₁.calls ≤ w.calls + 2 := hcalls
    omega

end Rehearsal

namespace Job

variable {job job' : Job} {rng rng' : Int64} {visible : List Event}

theorem work_lt_of_does (h : job.next.Does rng visible job' rng')
    (hquiet : linesRead visible = []) : job'.work < job.work := by
  generalize hnext : job.next = step at h
  cases h with
  | ask haccept => cases hquiet
  | tell | draw | save => exact work_lt (congrArg Step.goesOn? hnext)

/-- The work that a line gives to a job is bounded by the limit on counts. -/
theorem Grows.work_le {maxCount : UInt32} {k : Kind} (h : job.Grows rng visible job' rng')
    (hread : linesRead visible ≠ []) (hfault : job.progress.fault? = none)
    (hstandard : job.command = .standard maxCount k) : job'.work ≤ maxCount.toNat + 4 := by
  cases h with
  | first hfirst _ => exact Nat.zero_le _
  | second hfirst hsecond _ => exact Nat.zero_le _
  | medianCount hcount _ => exact Nat.zero_le _
  | value hcount hlt _ => exact Nat.zero_le _
  | @randomCount limit p _ line count hcount hline =>
    have hlimit : limit = maxCount := by
      cases k <;> cases hstandard
      rfl
    have hle := le_of_readCount hline
    rw [hlimit, UInt32.le_iff_toNat_le] at hle
    have hwork : (Job.randomSequence limit { p with count := some count }).work =
        count.toNat - p.nextIndex.toNat := rfl
    omega
  | @topic guide p _ topic hintro htopic hcursor =>
    have hblock := guide.length_block_le topic
    have hwork : (Job.help guide { p with topic := some topic }).work =
        3 - p.introCursor.toNat + ((guide.block topic).length - p.topicCursor.toNat + 1) := rfl
    omega
  | draw hcount hlt => exact absurd rfl hread
  | intro hlt hline htopic => exact absurd rfl hread
  | line hintro htopic hstay hline => exact absurd rfl hread
  | leave hintro htopic hstay hcursor => exact absurd rfl hread

theorem work_start_fresh_le (c : Command) : (start c .fresh).work ≤ 3 := by
  cases c with
  | sum => exact Nat.zero_le _
  | median maxCount => exact Nat.zero_le _
  | randomSequence maxCount => exact Nat.zero_le _
  | help guide => exact Nat.le_refl _

end Job

namespace Session

variable {r : Registry} {maxCount : UInt32} {s s' : Snapshot} {visible trace : List Event}
  {c c' : Checkpointer} {k k' : Option Job} {w w' : Rehearsal} {blob : Bytes}

def backlog (r : Registry) (s : Snapshot) : Nat :=
  work r s none

/-- A bound on the moves after which a session goes on, made of the lines that are left to read and
the work that is left of the pending command. -/
def potential (maxCount : UInt32) (unread : Nat) (s : Snapshot) : Nat :=
  unread * (maxCount.toNat + 6) + backlog (.standard maxCount) s

theorem backlog_of_atWork {job : Job} (h : AtWork r s job) : backlog r s = job.work + 1 := by
  obtain ⟨line, hpending, hdemand⟩ := h
  simp only [backlog, work, hpending, hdemand]

/-- A command that has not started yet has little work before its first line. -/
theorem backlog_pending_le {line : String} (hpending : s.pendingInput = some line)
    (hcommand : s.command = none) : backlog r s ≤ 4 := by
  simp only [backlog, work, hpending]
  cases hdemand : demand r s line with
  | work job =>
    obtain ⟨-, -, -, hstart⟩ := demand_eq_work_iff.1 hdemand
    have hwork := Job.work_start_fresh_le job.command
    rw [← Job.start_of_command_none hcommand, ← hstart] at hwork
    exact Nat.succ_le_succ hwork
  | _ => exact Nat.succ_le_succ (Nat.zero_le _)

/-- What an act leaves of the work: less than there was, or, with a line read, no more than the
limit on counts allows. -/
theorem Act.backlog_lt (h : Act (.standard maxCount) s visible s') (hfault : s.fault? = none) :
    backlog (.standard maxCount) s' <
      (linesRead visible).length * (maxCount.toNat + 6) + backlog (.standard maxCount) s := by
  cases h with
  | take hidle line =>
    have hcommand := Snapshot.command_eq_none hfault hidle
    have hle : backlog (.standard maxCount) { s with pendingInput := some line } ≤ 4 :=
      backlog_pending_le rfl hcommand
    simp only [linesRead_read, linesRead_nil, List.length_singleton]
    omega
  | @work job job' rng _ hwork hdoes =>
    have hgrows := Job.grows_of_does hdoes
    rw [backlog_of_atWork hwork, backlog_of_atWork (hwork.stage hgrows.command_eq rng)]
    by_cases hquiet : linesRead visible = []
    · have hlt := Job.work_lt_of_does hdoes hquiet
      omega
    · obtain ⟨_, kind, -, -, -, hstandard⟩ := hwork.standard
      obtain ⟨line, -, hdemand⟩ := hwork
      obtain ⟨-, -, hkind, hstart⟩ := demand_eq_work_iff.1 hdemand
      have hfault' : job.progress.fault? = none := hstart ▸ Job.fault?_start hfault hkind
      have hle := hgrows.work_le hquiet hfault' hstandard
      have hpos : 1 ≤ (linesRead visible).length := List.length_pos_iff.2 hquiet
      have hmul := Nat.mul_le_mul_right (maxCount.toNat + 6) hpos
      omega
  | unknown hpending hdemand =>
    have hnow : backlog (.standard maxCount) s = 1 := by
      simp only [backlog, Session.work, hpending, hdemand]
    have hlater : backlog (.standard maxCount) s.completed = 0 := work_completed _ s
    omega
  | conclude hwork hnext =>
    have hlater : backlog (.standard maxCount) s.completed = 0 := work_completed _ s
    rw [hlater, backlog_of_atWork hwork]
    omega
  | finish hwork hnext =>
    have hlater : backlog (.standard maxCount) s.completed = 0 := work_completed _ s
    rw [hlater, backlog_of_atWork hwork]
    omega

theorem Act.potential_lt (h : Act (.standard maxCount) s visible s') (hfault : s.fault? = none)
    (unread : Nat) :
    potential maxCount unread s' < potential maxCount ((linesRead visible).length + unread) s := by
  have hlt := h.backlog_lt hfault
  unfold potential
  rw [Nat.add_mul]
  omega

theorem Course.potential_le (h : Course (.standard maxCount) s trace s')
    (hfault : s.fault? = none) (unread : Nat) :
    potential maxCount unread s' ≤ potential maxCount ((linesRead trace).length + unread) s := by
  induction h with
  | refl s => simp
  | @cons s s₁ s' visible trace hact hcourse ih =>
    have hlater := ih (hact.fault? hfault)
    have hnow := hact.potential_lt hfault ((linesRead trace).length + unread)
    rw [linesRead_append, linesRead_saved, List.length_append, Nat.add_assoc]
    exact Nat.le_trans hlater hnow.le

/-- A move after which a session goes on uses up some of its potential. -/
theorem potential_lt_of_going (hslot : w.vault.slot = .memory blob)
    (hsettled : Settled (.standard maxCount) c.snapshot k) (hfault : c.snapshot.fault? = none)
    (hgoing : Machine.carryOut (next (.standard maxCount) c.snapshot k) c w = .going c' k' w') :
    potential maxCount w'.lines.length c'.snapshot <
      potential maxCount w.lines.length c.snapshot := by
  obtain ⟨visible, hact, hfollows, -⟩ := act_of_going hslot hsettled hgoing
  have hlines := congrArg List.length hfollows.lines_eq
  rw [linesRead_append, linesRead_saved, linesRead_nil, List.append_nil,
    List.length_append] at hlines
  rw [hlines]
  exact hact.potential_lt hfault w'.lines.length

theorem potential_lt_of_precedes (hslot : w.vault.slot = .memory blob)
    (hsettled : Settled (.standard maxCount) c.snapshot k) (hfault : c.snapshot.fault? = none)
    (h : (machine (.standard maxCount)).Precedes c k w c' k' w') :
    potential maxCount w'.lines.length c'.snapshot <
      potential maxCount w.lines.length c.snapshot := by
  obtain ⟨c₁, k₁, w₁, hgoing, hpasses⟩ := h
  obtain ⟨visible, hact, hfollows, hsettled₁⟩ := act_of_going hslot hsettled hgoing
  obtain ⟨trace, hcourse, hfollows₁, -⟩ :=
    course_of_passes hpasses (hfollows.slot hslot) hsettled₁
  have hlater := hcourse.potential_le (hact.fault? hfault) w'.lines.length
  rw [← List.length_append, ← hfollows₁.lines_eq] at hlater
  exact Nat.lt_of_le_of_lt hlater (potential_lt_of_going hslot hsettled hfault hgoing)

theorem exists_stopsAfter (hslot : w.vault.slot = .memory blob)
    (hsettled : Settled (.standard maxCount) c.snapshot k) (hfault : c.snapshot.fault? = none) :
    ∃ n ≤ potential maxCount w.lines.length c.snapshot,
      (machine (.standard maxCount)).StopsAfter n c k w
        ((machine (.standard maxCount)).run c k w) := by
  fun_induction Machine.run (machine (.standard maxCount)) c k w generalizing blob with
  | case1 c k w result c' w' hover => exact ⟨0, Nat.zero_le _, .now hover⟩
  | case2 c k w c' k' w' hgoing ih =>
    obtain ⟨visible, hact, hfollows, hsettled'⟩ := act_of_going hslot hsettled hgoing
    obtain ⟨n, hle, hstops⟩ := ih (hfollows.slot hslot) hsettled' (hact.fault? hfault)
    have hlt := potential_lt_of_going hslot hsettled hfault hgoing
    exact ⟨n + 1, Nat.lt_of_le_of_lt hle hlt, .later hgoing hstops⟩

/-- Every run on finitely many lines ends, whatever the slot holds and whatever is refused. From one
configuration that it meets to any later one, and so in every turn of a loop over command lines,
topics, values or draws, the potential decreases. It either fails to take up its slot, or stops
after no more moves than the potential that it starts with, each with two calls at most. -/
theorem stopsAfter_le_potential (maxCount : UInt32) (blob : Bytes) (lines : List String)
    (refuseCall : Nat → Option (Moment × String)) (refuseStore : Nat → Option String)
    (refuseLoad : Option String) :
    let r := Registry.standard maxCount
    let opened := Rehearsal.opening blob lines refuseCall refuseStore
    let w := { opened with vault := { opened.vault with refuseLoad } }
    let final := run r w
    (∀ c k w₁ c' k' w₂, Meets r w c k w₁ → (machine r).Precedes c k w₁ c' k' w₂ →
      potential maxCount w₂.lines.length c'.snapshot <
        potential maxCount w₁.lines.length c.snapshot) ∧
    ((∃ error, Checkpointer.resume w = (.error error, w) ∧ final = (.error error, w)) ∨
      ∃ c n c', Checkpointer.resume w = (.ok c, w) ∧
        n ≤ potential maxCount lines.length c.snapshot ∧
        (machine r).StopsAfter n c none w (final.1, c', final.2) ∧
        final.2.calls ≤ 2 * (n + 1)) := by
  intro r opened w final
  constructor
  · intro c k w₁ c' k' w₂ hmeets hprecedes
    obtain ⟨s, trace, hrestore, hcourse, hfollows, hsettled⟩ := course_of_meets (w := w) rfl hmeets
    have hfault := hcourse.fault? (Snapshot.fault?_of_restore hrestore)
    exact potential_lt_of_precedes (hfollows.slot rfl) hsettled hfault hprecedes
  · rcases resume_or_fails (w := w) rfl with ⟨error, hresume⟩ | ⟨c, hresume, hrestore⟩
    · exact .inl ⟨error, hresume, run_of_resume_error hresume⟩
    · right
      have hfault : c.snapshot.fault? = none := Snapshot.fault?_of_restore hrestore
      obtain ⟨n, hle, hstops⟩ := exists_stopsAfter (w := w) (k := none) rfl trivial hfault
      have hrun : final = _ := run_of_resume hresume
      have hcalls := Rehearsal.calls_of_stopsAfter hstops
      have hnone : w.calls = 0 := rfl
      rw [hnone, Nat.zero_add] at hcalls
      rw [hrun]
      exact ⟨c, n, _, hresume, hle, hstops, hcalls⟩

end Session

end DurableCalc
