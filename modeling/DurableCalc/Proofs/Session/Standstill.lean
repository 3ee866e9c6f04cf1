import DurableCalc.Proofs.Session.Lockstep
import DurableCalc.Proofs.Session.Soundness

/-!
# Sessions that stand still

A run on a slot that earlier runs have left goes on with the person at the channel: it reads or
writes a line, or it leaves on a pending `exit`. There is one exception. The operands of `sum` are
saved before their sum is looked at, so that a slot may hold two operands whose sum is out of range.
Every run on such a slot stops before its first line, and it leaves the slot as it is.
-/

namespace DurableCalc

open Event

def Snapshot.Jams (first second : Int64) (s : Snapshot) : Prop :=
  s.command = some (.sum { first := some first, second := some second }) ∧
    SumProgress.fits (first.toInt + second.toInt) = false

/-- A slot's blob with two operands for `sum` whose sum is out of range. -/
def Jammed (first second : Int64) (blob : Bytes) : Prop :=
  ∃ s, Snapshot.decode blob = .ok (some s) ∧ s.Jams first second

namespace Rehearsal

variable {M : Machine σ} {c : Checkpointer} {k : σ} {w : Rehearsal}

theorem channelCalls_le_run (M : Machine σ) (c : Checkpointer) (k : σ) (w : Rehearsal) :
    w.channelCalls ≤ (M.run c k w).2.2.channelCalls := by
  fun_induction Machine.run M c k w with
  | case1 c k w result c' w' hover =>
    have hcalls := channelCalls_carryOut (M.next c.snapshot k) c w
    rw [hover] at hcalls
    exact hcalls ▸ Nat.le_add_right _ _
  | case2 c k w c' k' w' hgoing ih =>
    have hcalls := channelCalls_carryOut (M.next c.snapshot k) c w
    rw [hgoing] at hcalls
    exact Nat.le_trans (hcalls ▸ Nat.le_add_right _ _) ih

theorem channelCalls_lt_run (hcall : (M.next c.snapshot k).isCall = true) :
    w.channelCalls < (M.run c k w).2.2.channelCalls := by
  have hcalls := channelCalls_carryOut (M.next c.snapshot k) c w
  rw [if_pos hcall] at hcalls
  cases hturn : Machine.carryOut (M.next c.snapshot k) c w with
  | «over» result c' w' =>
    rw [hturn] at hcalls
    rw [Machine.run_over hturn]
    exact hcalls ▸ Nat.lt_succ_self _
  | going c' k' w' =>
    rw [hturn] at hcalls
    rw [Machine.run_going hturn]
    exact Nat.lt_of_lt_of_le (hcalls ▸ Nat.lt_succ_self _) (channelCalls_le_run M c' k' w')

end Rehearsal

namespace Session

variable {r : Registry} {s : Snapshot} {w : Rehearsal} {blob : Bytes} {limit : Nat}
  {maxCount : UInt32} {first second : Int64} {result : Except Error Unit}

/-- A session that saves first asks for a line next, if the slot does not refuse. -/
theorem channelCalls_lt_of_save {c : Checkpointer} {s' : Snapshot} {k' : Option Job}
    (hslot : w.vault.slot = .memory blob) (hstore : ∀ n, w.vault.refuseStore n = none)
    (hsave : next r c.snapshot none = .save s' k') :
    w.channelCalls < ((machine r).run c none w).2.2.channelCalls := by
  have hdoes : (next r c.snapshot none).Does [] s' k' := hsave ▸ .save
  obtain ⟨hact, hsettled⟩ := act_of_does hdoes
  obtain ⟨accept, hask⟩ := hact.exists_ask
  have hcalls := Rehearsal.channelCalls_carryOut (next r c.snapshot none) c w
  have hturns := Rehearsal.turns_carryOut hslot (next r c.snapshot none) c
  rw [hsave] at hcalls hturns
  cases hturn : Machine.carryOut (.save s' k') c w with
  | «over» result c₁ w₁ =>
    rw [hturn] at hturns
    cases hturns with
    | stopped hstops =>
      cases hstops with
      | ended hend _ => cases hend
      | broken hbreak _ hstrikes =>
        cases hbreak with
        | save _ =>
          obtain ⟨n, hrefuse⟩ := hstrikes
          rw [hstore n] at hrefuse
          cases hrefuse
  | going c₁ k₁ w₁ =>
    obtain ⟨rfl, rfl, -⟩ := Machine.saveThen_going hturn
    rw [hturn] at hcalls
    have hcall : (next r c₁.snapshot k₁).isCall = true := by
      rw [next_of_settled hsettled, hask]
      rfl
    have hmove : Machine.carryOut ((machine r).next c.snapshot none) c w = .going c₁ k₁ w₁ := by
      rw [← hturn, ← hsave]
      rfl
    have hsame : w₁.channelCalls = w.channelCalls := hcalls
    rw [Machine.run_going hmove, ← hsame]
    exact Rehearsal.channelCalls_lt_run hcall

/-- What comes of a run whose slot does not refuse: it reads or writes a line, or its first move is
to leave the session or to stop. -/
theorem run_cases (hslot : w.vault.slot = .memory blob) (hload : w.vault.refuseLoad = none)
    (hstore : ∀ n, w.vault.refuseStore n = none) (hrestore : Snapshot.restore blob = .ok s) :
    w.channelCalls < (run r w).2.channelCalls ∨
      (next r s none = .leave ∧ (run r w).1 = .ok () ∧ (run r w).2.vault.slot = .memory []) ∨
      ∃ result, next r s none = .stop result := by
  obtain ⟨c, hresume, rfl⟩ := exists_resume hslot hload hrestore
  rw [run_of_resume hresume]
  cases hmove : next r c.snapshot none with
  | ask accept =>
    exact .inl (Rehearsal.channelCalls_lt_run (M := machine r) (congrArg Move.isCall hmove))
  | tell entries line s k =>
    exact .inl (Rehearsal.channelCalls_lt_run (M := machine r) (congrArg Move.isCall hmove))
  | conclude line => exact absurd hmove (next_ne_conclude line)
  | save s k => exact .inl (channelCalls_lt_of_save hslot hstore hmove)
  | stop result => exact .inr (.inr ⟨result, rfl⟩)
  | leave =>
    have hturns := Rehearsal.turns_carryOut hslot (next r c.snapshot none) c
    rw [hmove] at hturns
    cases hturn : Machine.carryOut (.leave : Move (Option Job)) c w with
    | going c₁ k₁ w₁ =>
      rw [hturn] at hturns
      cases hturns with
      | going hdoes _ => cases hdoes
    | «over» result c₁ w₁ =>
      rw [hturn] at hturns
      have hover : Machine.carryOut ((machine r).next c.snapshot none) c w =
          .over result c₁ w₁ := by
        rw [← hturn, ← hmove]
        rfl
      rw [Machine.run_over hover]
      cases hturns with
      | stopped hstops =>
        cases hstops with
        | ended hend hfollows =>
          cases hend with
          | leave => exact .inr (.inl ⟨rfl, rfl, hfollows.slot hslot⟩)
        | broken hbreak _ hstrikes =>
          cases hbreak with
          | save hdoes => cases hdoes
          | leave =>
            obtain ⟨n, hrefuse⟩ := hstrikes
            rw [hstore n] at hrefuse
            cases hrefuse

theorem command_of_start_sum {first : Int64} {second : Option Int64}
    (h : Job.sum { first := some first, second } = Job.start .sum s) :
    s.command = some (.sum { first := some first, second }) := by
  simp only [Job.start, Snapshot.sumProgress, Job.sum.injEq] at h
  split at h
  · rename_i p hcommand
    rw [hcommand, h]
  · cases h

/-- A standard session stops on a sound snapshot only if the snapshot jams it. -/
theorem jams_of_stop (hsound : s.Sound limit)
    (hstop : next (.standard maxCount) s none = .stop result) :
    ∃ first second, s.Jams first second ∧ result = .error (.input (.overflow first second)) := by
  have hend : (next (.standard maxCount) s none).Ends [] result [] := hstop ▸ .stop
  have hne := (halt_of_ends hend).ne_snapshot hsound
  cases halt_of_ends hend with
  | foreign hpending hdemand => exact absurd rfl (hne _)
  | refuse hwork hnext => exact absurd rfl (hne _)
  | reject hwork hnext =>
    obtain ⟨first, second, rfl, hfits, rfl⟩ := Job.next_eq_reject_iff.1 hnext
    obtain ⟨line, -, hdemand⟩ := hwork
    obtain ⟨-, -, -, hstart⟩ := demand_eq_work_iff.1 hdemand
    exact ⟨first, second, ⟨command_of_start_sum hstart, hfits⟩, rfl⟩

theorem stop_of_jams (hsound : s.Sound limit) (hjams : s.Jams first second) :
    next (.standard maxCount) s none = .stop (.error (.input (.overflow first second))) := by
  obtain ⟨hcommand, hfits⟩ := hjams
  obtain ⟨line, hpending, hexit, hlookup⟩ := hsound.pendingInput _ hcommand
  obtain ⟨c, hc, hkind⟩ := hlookup maxCount
  obtain rfl : c = .sum := by
    cases c with
    | sum => rfl
    | _ => cases hkind
  have hwork : AtWork (.standard maxCount) s
      (.sum { first := some first, second := some second }) := by
    refine ⟨line, hpending, demand_eq_work_iff.2 ⟨hexit, hc, ?_, ?_⟩⟩
    · intro p hp
      rw [hcommand] at hp
      cases hp
      rfl
    · exact (Job.start_command hcommand).symm
  rw [next_of_atWork hwork, workOn, Job.next_eq_reject_iff.2 ⟨first, second, rfl, hfits, rfl⟩]
  rfl

theorem exit_of_leave (h : next r s none = .leave) :
    ∃ line, s.pendingInput = some line ∧ Text.fold (Text.trim line) = exitKeyword := by
  have hend : (next r s none).Ends [.saved []] (.ok ()) [] := h ▸ .leave
  cases halt_of_ends hend with
  | leave hpending hdemand => exact ⟨_, hpending, eq_exit_of_demand hdemand⟩

/-- A session that reads two operands whose sum is out of range fails with both of them saved. -/
theorem completes_overflow :
    let pending : Snapshot := { pendingInput := some "sum" }
    let held := pending.stage (.sum { first := some 9223372036854775807, second := some 1 })
    ∃ trace, Completes (.standard 1000) .fresh ["sum", "9223372036854775807", "1"] trace
      (.error (.input (.overflow 9223372036854775807 1))) [] ∧
      lastSaved [] trace = held.encode := by
  intro pending held
  let start : Job := .sum {}
  let half : Job := .sum { first := some 9223372036854775807 }
  let full : Job := .sum { first := some 9223372036854775807, second := some 1 }
  have hstart : AtWork (.standard 1000) pending start := ⟨"sum", rfl, rfl⟩
  have hhalf : AtWork (.standard 1000) (pending.stage half.progress) half := ⟨"sum", rfl, rfl⟩
  have hfull : AtWork (.standard 1000) held full := ⟨"sum", rfl, rfl⟩
  have hfirst : start.next.Does seed [.read "9223372036854775807"] half seed := .ask rfl
  have hsecond : half.next.Does seed [.read "1"] full seed := .ask rfl
  have hcourse : Course (.standard 1000) .fresh _ held :=
    .cons (.take rfl "sum") (.cons (.work hstart hfirst) (.cons (.work hhalf hsecond) (.refl held)))
  have hhalt : Halt (.standard 1000) held [] _ [] := .reject hfull rfl
  exact ⟨_, ⟨_, _, held, hcourse, hhalt.ends, rfl, rfl⟩, rfl⟩

end Session

namespace Visit

variable {limit : Nat} {blob : Bytes} {first second : Int64}

theorem run_of_jammed (v : Visit) (h : Holds limit blob) (hjammed : Jammed first second blob) :
    v.run blob = (.error (.input (.overflow first second)),
      Rehearsal.opening blob v.lines v.refuseCall v.refuseStore) := by
  obtain ⟨s, hdecode, hjams⟩ := hjammed
  have hrestore : Snapshot.restore blob = .ok s := by
    rw [Snapshot.restore, hdecode]
    rfl
  obtain ⟨s', hrestore', hsound⟩ := h.restore
  rw [hrestore] at hrestore'
  cases hrestore'
  exact Session.run_of_stop rfl rfl hrestore (Session.stop_of_jams hsound hjams)

theorem calls_or_leaves (v : Visit) (h : Holds limit blob) (hstore : ∀ n, v.refuseStore n = none)
    (hfree : ∀ first second, ¬ Jammed first second blob) :
    0 < (v.run blob).2.channelCalls ∨
      ∃ s line, Snapshot.decode blob = .ok (some s) ∧ s.pendingInput = some line ∧
        Text.fold (Text.trim line) = Session.exitKeyword ∧ (v.run blob).1 = .ok () ∧
        (v.run blob).2.vault.slot = .memory [] := by
  obtain ⟨s, hrestore, hsound⟩ := h.restore
  have hheld := Snapshot.decode_of_restore hrestore
  rcases Session.run_cases (r := .standard v.maxCount)
      (w := Rehearsal.opening blob v.lines v.refuseCall v.refuseStore) rfl rfl hstore hrestore with
    hcalls | ⟨hleave, hresult, hslot⟩ | ⟨result, hstop⟩
  · exact .inl hcalls
  · obtain ⟨line, hpending, hexit⟩ := Session.exit_of_leave hleave
    rcases hheld with rfl | hdecode
    · cases hpending
    · exact .inr ⟨s, line, hdecode, hpending, hexit, hresult, hslot⟩
  · obtain ⟨first, second, hjams, -⟩ := Session.jams_of_stop hsound hstop
    rcases hheld with rfl | hdecode
    · cases hjams.1
    · exact absurd ⟨s, hdecode, hjams⟩ (hfree first second)

end Visit

/-- No input wedges a session, but for two operands whose sum is out of range. On a slot that any
earlier visits have left, and that does not refuse, a visit reads or writes a line or leaves on a
pending `exit`, unless the slot holds two such operands. Then it fails before its first line and
leaves the slot as it is, so that every later visit fails alike. -/
theorem calls_or_leaves_or_jammed {limit : Nat} {blob : Bytes} (h : Reached limit blob) (v : Visit)
    (hstore : ∀ n, v.refuseStore n = none) :
    let final := v.run blob
    ((∀ first second, ¬ Jammed first second blob) ∧
      (0 < final.2.channelCalls ∨
        ∃ s line, Snapshot.decode blob = .ok (some s) ∧ s.pendingInput = some line ∧
          Text.fold (Text.trim line) = Session.exitKeyword ∧ final.1 = .ok () ∧
          final.2.vault.slot = .memory [])) ∨
    ∃ first second, Jammed first second blob ∧
      final.1 = .error (.input (.overflow first second)) ∧ final.2.channelCalls = 0 ∧
      final.2.events = [] ∧ final.2.vault.slot = .memory blob := by
  intro final
  by_cases hfree : ∀ first second, ¬ Jammed first second blob
  · exact .inl ⟨hfree, v.calls_or_leaves h.holds hstore hfree⟩
  · right
    push Not at hfree
    obtain ⟨first, second, hjammed⟩ := hfree
    have hfinal : final = _ := v.run_of_jammed h.holds hjammed
    rw [hfinal]
    exact ⟨first, second, hjammed, rfl, rfl, rfl, rfl⟩

/-- A visit with no lines to read, under a smaller limit than that of a visit whose input has ended
among the values for a median. -/
theorem calls_or_leaves_or_jammed_median :
    let first : Visit := { maxCount := 5, lines := ["median", "3", "-7"] }
    let blob := lastSaved [] (first.run []).2.events
    let v : Visit := { maxCount := 1, lines := [] }
    let final := v.run blob
    Reached 5 blob ∧ (∀ n, v.refuseStore n = none) ∧
      (((∀ first second, ¬ Jammed first second blob) ∧
        (0 < final.2.channelCalls ∨
          ∃ s line, Snapshot.decode blob = .ok (some s) ∧ s.pendingInput = some line ∧
            Text.fold (Text.trim line) = Session.exitKeyword ∧ final.1 = .ok () ∧
            final.2.vault.slot = .memory [])) ∨
      ∃ first second, Jammed first second blob ∧
        final.1 = .error (.input (.overflow first second)) ∧ final.2.channelCalls = 0 ∧
        final.2.events = [] ∧ final.2.vault.slot = .memory blob) := by
  intro first blob v final
  have hreached : Reached 5 blob := .visit .empty first List.prefix_rfl
  exact ⟨hreached, fun _ => rfl, calls_or_leaves_or_jammed hreached v fun _ => rfl⟩

/-- Two operands whose sum is out of range wedge a session: no later visit, under any limit and with
any lines, reads or writes a line or leaves, and none changes the slot. -/
theorem wedged_by_overflow :
    let first : Visit := { maxCount := 1000, lines := ["sum", "9223372036854775807", "1"] }
    let blob := lastSaved [] (first.run []).2.events
    Reached 1000 blob ∧ ∀ v : Visit,
      (v.run blob).1 = .error (.input (.overflow 9223372036854775807 1)) ∧
        (v.run blob).2.channelCalls = 0 ∧ (v.run blob).2.vault.slot = .memory blob := by
  intro first blob
  let held : Snapshot :=
    { pendingInput := some "sum"
      command := some (.sum { first := some 9223372036854775807, second := some 1 }) }
  have hreached : Reached 1000 blob := .visit .empty first List.prefix_rfl
  obtain ⟨trace, hcomplete, hlast⟩ := Session.completes_overflow
  obtain ⟨trace', hcomplete', hfollows⟩ :=
    Session.run_opening (.standard 1000) first.lines Snapshot.restore_nil
  obtain ⟨rfl, -, -⟩ := hcomplete'.unique hcomplete
  have hblob : blob = held.encode := (congrArg (lastSaved []) hfollows.events_eq).trans hlast
  have hdecode : Snapshot.decode blob = .ok (some held) := by
    rw [hblob, Snapshot.decode_encode]
    rfl
  have hjammed : Jammed 9223372036854775807 1 blob := ⟨held, hdecode, rfl, rfl⟩
  refine ⟨hreached, fun v => ?_⟩
  rw [v.run_of_jammed hreached.holds hjammed]
  exact ⟨rfl, rfl, rfl⟩

end DurableCalc
