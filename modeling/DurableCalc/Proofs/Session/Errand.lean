import DurableCalc.Proofs.Command.Leftover
import DurableCalc.Proofs.Command.Names
import DurableCalc.Proofs.Session.Lockstep

/-!
# Errands

An errand works on one command, from the progress that a snapshot holds for it. Where nothing is
refused its steps are those of the command's job, so that it reads and writes what is left of the
command, and no more.
-/

namespace DurableCalc

open Event

namespace Move

variable {move : Move σ} {s s' : Snapshot} {k k' : σ} {visible visible' : List Event}

theorem Does.control_eq (h : move.Does visible s k) (h' : move.Does visible s' k') : k = k' := by
  cases h with
  | ask haccept =>
    cases h' with
    | ask haccept' =>
      rw [haccept] at haccept'
      cases haccept'
      rfl
  | tell =>
    cases h'
    rfl
  | save =>
    cases h'
    rfl

end Move

namespace Rehearsal

structure Calm (w : Rehearsal) : Prop where
  slot_eq : ∃ blob, w.vault.slot = .memory blob
  refuseCall_eq : ∀ n, w.refuseCall n = none
  refuseStore_eq : ∀ n, w.vault.refuseStore n = none

variable {w w' : Rehearsal} {trace visible rest : List Event} {lines : List String}

theorem Calm.of_follows (h : w.Calm) (hfollows : w.Follows trace w') : w'.Calm := by
  obtain ⟨blob, -, hslot⟩ := hfollows.slot_eq
  refine ⟨⟨_, hslot⟩, fun n => ?_, fun n => ?_⟩
  · rw [hfollows.refuseCall_eq, h.refuseCall_eq n]
  · rw [hfollows.refuseStore_eq, h.refuseStore_eq n]

theorem Calm.not_strikes (h : w.Calm) (fault : Fault) : ¬ fault.Strikes w w' := by
  intro hstrikes
  cases fault with
  | call moment reason =>
    obtain ⟨n, -, -, hrefuse⟩ := hstrikes
    rw [h.refuseCall_eq n] at hrefuse
    cases hrefuse
  | store reason =>
    obtain ⟨n, hrefuse⟩ := hstrikes
    rw [h.refuseStore_eq n] at hrefuse
    cases hrefuse

/-- Where nothing is refused, what a move can do with the next lines it does. -/
theorem Calm.going {move : Move σ} {s : Snapshot} {k : σ} (h : w.Calm)
    (hdoes : move.Does visible s k) (hlines : w.lines = linesRead visible ++ lines)
    (c : Checkpointer) :
    ∃ c' w', Machine.carryOut move c w = .going c' k w' ∧ c'.snapshot = s ∧
      w.Follows (visible ++ [.saved s.encode]) w' := by
  obtain ⟨blob, hslot⟩ := h.slot_eq
  have hturns := turns_carryOut hslot move c
  cases hturn : Machine.carryOut move c w with
  | going c' k' w' =>
    rw [hturn] at hturns
    cases hturns with
    | @going _ _ visible' _ hdoes' hfollows =>
      have hsame : linesRead visible ++ lines = linesRead visible' ++ w'.lines := by
        rw [← hlines, hfollows.lines_eq]
        simp
      obtain ⟨rfl, rfl, -⟩ := hdoes.unique hdoes' hsame
      obtain rfl := hdoes.control_eq hdoes'
      exact ⟨c', w', rfl, rfl, hfollows⟩
  | «over» result c' w' =>
    rw [hturn] at hturns
    cases hturns with
    | stopped hstops =>
      cases hstops with
      | ended hend hfollows =>
        exact (hend.not_does hdoes (hfollows.lines_eq.symm.trans hlines)).elim
      | broken hbreak hfollows hstrikes => exact (h.not_strikes _ hstrikes).elim

end Rehearsal

namespace Errand

variable {c : Checkpointer} {w : Rehearsal} {job job' : Job} {rng rng' : Int64}
  {trace visible : List Event} {lines : List String}

/-- What an errand comes to: what was read and written, the lines that are left, and the
state of the generator. The pending line is kept. -/
structure Comes (c : Checkpointer) (w : Rehearsal) (trace : List Event) (lines : List String)
    (rng : Int64) (c' : Checkpointer) (w' : Rehearsal) : Prop where
  calls_eq : w'.events.filter isCall = w.events.filter isCall ++ trace
  lines_eq : w'.lines = lines
  rngState_eq : c'.snapshot.rngState = rng
  pendingInput_eq : c'.snapshot.pendingInput = c.snapshot.pendingInput

theorem Comes.trans {c₁ c₂ : Checkpointer} {w₁ w₂ : Rehearsal} {trace' : List Event}
    {lines' : List String} (h : Comes c w trace lines rng c₁ w₁)
    (h' : Comes c₁ w₁ trace' lines' rng' c₂ w₂) :
    Comes c w (trace ++ trace') lines' rng' c₂ w₂ where
  calls_eq := by rw [h'.calls_eq, h.calls_eq, List.append_assoc]
  lines_eq := h'.lines_eq
  rngState_eq := h'.rngState_eq
  pendingInput_eq := h'.pendingInput_eq.trans h.pendingInput_eq

end Errand

end DurableCalc
