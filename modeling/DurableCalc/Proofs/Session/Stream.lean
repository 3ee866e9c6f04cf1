import DurableCalc.Proofs.Session.ExactlyOnce
import DurableCalc.Proofs.Session.Soundness
import DurableCalc.Proofs.Session.Transition

/-!
# One stream of the generator in a session

The values that random sequences write, from one time that a session is left to the next, are the
states of the generator from the seed, one after the other. No command, no run and no call that is
refused before it has an effect skips a state, repeats it or starts over. What the slot holds tells
which of the written lines those are, and it has the next state.
-/

namespace DurableCalc

open Event

def Generator.firstLines (n : Nat) : List String :=
  (List.range n).map fun k => Text.decimal (value k)

theorem Generator.firstLines_succ (n : Nat) :
    firstLines (n + 1) = firstLines n ++ [Text.decimal (value n)] := by
  rw [firstLines, List.range_succ, List.map_append]
  rfl

def Snapshot.isDrawing (s : Snapshot) : Bool :=
  s.pendingInput.any fun line =>
    Kind.called (Text.fold (Text.trim line)) == some .randomSequence

/-- What a slot holds, and the lines that random sequences have written since it was empty. -/
structure Tally where
  held : Bytes := []
  drawn : List String := []

namespace Tally

def isDrawing (t : Tally) : Bool :=
  (Snapshot.restore t.held).toOption.any Snapshot.isDrawing

/-- The tally after an event. When a session is left, the slot is emptied and the tally starts
over. -/
def note (t : Tally) : Event → Tally
  | .saved [] => {}
  | .saved blob => { t with held := blob }
  | .wrote line => if t.isDrawing then { t with drawn := t.drawn ++ [line] } else t
  | _ => t

structure Matches (t : Tally) (rng : Int64) : Prop where
  drawn_eq : t.drawn = Generator.firstLines t.drawn.length
  toInt_eq : rng.toInt = Generator.value t.drawn.length

structure Fits (t : Tally) (s : Snapshot) : Prop where
  restore_eq : Snapshot.restore t.held = .ok s
  matches_rngState : t.Matches s.rngState

/-- Traces at every moment of which the lines drawn so far are the first values of the stream, and
in which every snapshot that is saved has the next one. -/
def InStream (t : Tally) : List Event → Prop
  | [] => t.drawn = Generator.firstLines t.drawn.length
  | event :: trace =>
    t.drawn = Generator.firstLines t.drawn.length ∧
    (∀ blob, event = .saved blob → blob ≠ [] → ∃ s, Snapshot.decode blob = .ok (some s) ∧
      s.rngState.toInt = Generator.value t.drawn.length) ∧
    InStream (t.note event) trace

structure Carries (t : Tally) (trace : List Event) (s : Snapshot) : Prop where
  inStream : t.InStream trace
  fits : (trace.foldl note t).Fits s

variable {t : Tally} {s s' : Snapshot} {rng : Int64} {trace trace' : List Event}

theorem held_foldl_note (t : Tally) (trace : List Event) :
    (trace.foldl note t).held = lastSaved t.held trace := by
  induction trace generalizing t with
  | nil => rfl
  | cons event trace ih =>
    rw [List.foldl_cons, ih]
    cases event with
    | saved blob => cases blob <;> rfl
    | wrote line =>
      show lastSaved (if t.isDrawing then { t with drawn := t.drawn ++ [line] } else t).held _ = _
      split <;> rfl
    | _ => rfl

theorem Fits.isDrawing_eq (h : t.Fits s) : t.isDrawing = s.isDrawing := by
  rw [isDrawing, h.restore_eq]
  rfl

theorem fits_fresh : ({} : Tally).Fits .fresh where
  restore_eq := rfl
  matches_rngState := ⟨rfl, by decide⟩

theorem Matches.draw (h : t.Matches rng) :
    { t with drawn := t.drawn ++ [Text.decimal rng.toInt] : Tally }.Matches
      (Generator.next rng) where
  drawn_eq := by
    rw [List.length_append, List.length_singleton, Generator.firstLines_succ, ← h.drawn_eq,
      h.toInt_eq]
  toInt_eq := by
    rw [List.length_append, List.length_singleton]
    exact Generator.toInt_next_of_eq_value h.toInt_eq

theorem Matches.carries_saved (h : t.Matches s.rngState) (hfault : s.fault? = none) :
    t.Carries [.saved s.encode] s := by
  have hdecode : Snapshot.decode s.encode = .ok (some s) := by
    rw [Snapshot.decode_encode, hfault]
  have hnote : t.note (.saved s.encode) = { t with held := s.encode } := by
    obtain ⟨byte, blob, hencode⟩ := List.exists_cons_of_ne_nil s.encode_ne_nil
    rw [hencode]
    rfl
  have hsaved : (t.note (.saved s.encode)).Fits s := by
    rw [hnote]
    exact ⟨Snapshot.restore_encode hfault, h.drawn_eq, h.toInt_eq⟩
  refine ⟨⟨h.drawn_eq, ?_, hsaved.matches_rngState.drawn_eq⟩, hsaved⟩
  rintro _ ⟨⟩ -
  exact ⟨s, hdecode, h.toInt_eq⟩

theorem InStream.append (h : t.InStream trace) (h' : (trace.foldl note t).InStream trace') :
    t.InStream (trace ++ trace') := by
  induction trace generalizing t with
  | nil => exact h'
  | cons event trace ih => exact ⟨h.1, h.2.1, ih h.2.2 h'⟩

theorem InStream.take {events : List Event} (h : t.InStream events) (n : Nat) :
    let t' := (events.take n).foldl note t
    t'.drawn = Generator.firstLines t'.drawn.length ∧
      ∀ blob, events[n]? = some (.saved blob) → blob ≠ [] →
        ∃ s, Snapshot.decode blob = .ok (some s) ∧
          s.rngState.toInt = Generator.value t'.drawn.length := by
  induction events generalizing t n with
  | nil =>
    rw [List.take_nil]
    exact ⟨h, by simp⟩
  | cons event events ih =>
    cases n with
    | zero => exact ⟨h.1, fun blob hblob => h.2.1 blob (Option.some.inj hblob)⟩
    | succ n => exact ih h.2.2 n

theorem Carries.trans (h : t.Carries trace s) (h' : (trace.foldl note t).Carries trace' s') :
    t.Carries (trace ++ trace') s' where
  inStream := h.inStream.append h'.inStream
  fits := by
    rw [List.foldl_append]
    exact h'.fits

/-- Where no blob is saved and no line is written in a random sequence, the tally stays. -/
theorem Fits.carries_of_quiet (h : t.Fits s) (hunsaved : ∀ blob, .saved blob ∉ trace)
    (hquiet : s.isDrawing = true → linesWritten trace = []) :
    trace.foldl note t = t ∧ t.Carries trace s := by
  suffices hstay : trace.foldl note t = t ∧ t.InStream trace from
    ⟨hstay.1, hstay.2, hstay.1.symm ▸ h⟩
  induction trace with
  | nil => exact ⟨rfl, h.matches_rngState.drawn_eq⟩
  | cons event trace ih =>
    have hnote : t.note event = t := by
      cases event with
      | saved blob => exact absurd List.mem_cons_self (hunsaved blob)
      | wrote line =>
        refine if_neg fun hdrawing => ?_
        cases hquiet (h.isDrawing_eq ▸ hdrawing)
      | _ => rfl
    have hlater : s.isDrawing = true → linesWritten trace = [] := by
      intro hdrawing
      have hboth : linesWritten ([event] ++ trace) = [] := hquiet hdrawing
      rw [linesWritten_append, List.append_eq_nil_iff] at hboth
      exact hboth.2
    obtain ⟨hstay, hinStream⟩ := ih (fun blob hblob => hunsaved blob (.tail event hblob)) hlater
    rw [List.foldl_cons, hnote]
    refine ⟨hstay, h.matches_rngState.drawn_eq, ?_, hnote.symm ▸ hinStream⟩
    rintro blob rfl -
    exact absurd List.mem_cons_self (hunsaved blob)

end Tally

namespace Session

variable {maxCount : UInt32} {s s' : Snapshot} {t : Tally} {visible trace tail : List Event}

theorem AtWork.isDrawing_eq {job : Job} (h : AtWork (.standard maxCount) s job) :
    s.isDrawing = (job.command.kind == .randomSequence) := by
  obtain ⟨line, k, hpending, -, hcalled, hcommand⟩ := h.standard
  rw [Snapshot.isDrawing, hpending, hcommand, Command.kind_standard, Option.any_some, hcalled]
  rfl

/-- An act of a random sequence that writes a line writes the generator's state and leads to the
next one. No other act changes that state. -/
theorem Act.draws_or_keeps (h : Act (.standard maxCount) s visible s')
    (hfault : s.fault? = none) :
    (s.isDrawing = true ∧ visible = [.wrote (Text.decimal s.rngState.toInt)] ∧
      s'.rngState = Generator.next s.rngState) ∨
    (s'.rngState = s.rngState ∧ (s.isDrawing = true → linesWritten visible = [])) := by
  cases h with
  | take hidle line => exact .inr ⟨rfl, fun _ => rfl⟩
  | @work job job' rng _ hwork hdoes =>
    have hdrawing := hwork.isDrawing_eq
    cases Job.grows_of_does hdoes with
    | draw hcount hlt => exact .inl ⟨hdrawing, rfl, rfl⟩
    | intro hlt hline htopic => exact .inr ⟨rfl, fun h => by cases hdrawing.symm.trans h⟩
    | line hintro htopic hstay hline =>
      exact .inr ⟨rfl, fun h => by cases hdrawing.symm.trans h⟩
    | _ => exact .inr ⟨rfl, fun _ => rfl⟩
  | @unknown line name hpending hdemand =>
    obtain ⟨-, hlookup, -⟩ := unknown_of_demand hdemand
    rw [Registry.lookup_standard, Text.trim_trim, Option.map_eq_none_iff] at hlookup
    refine .inr ⟨rfl, fun h => ?_⟩
    rw [Snapshot.isDrawing, hpending, Option.any_some, hlookup] at h
    cases h
  | conclude hwork hnext =>
    have hdrawing := hwork.isDrawing_eq
    have hconcludes := Job.concludes_of_conclude (hwork.fault? hfault) hnext
    refine .inr ⟨rfl, fun h => ?_⟩
    generalize Job.command _ = c at hdrawing hconcludes
    generalize Job.progress _ = p at hconcludes
    cases hconcludes <;> cases hdrawing.symm.trans h
  | finish hwork hnext => exact .inr ⟨rfl, fun _ => rfl⟩

theorem Act.carries (h : Act (.standard maxCount) s visible s') (hfits : t.Fits s) :
    t.Carries (visible ++ [.saved s'.encode]) s' := by
  have hfault := Snapshot.fault?_of_restore hfits.restore_eq
  have hfault' := h.fault? hfault
  obtain ⟨k, hdoes⟩ := h.exists_does
  -- Between the line and the save behind it the slot still has the value that was written.
  rcases h.draws_or_keeps hfault with ⟨hdrawing, rfl, hnext⟩ | ⟨hkeeps, hquiet⟩
  · have hnote : t.note (.wrote (Text.decimal s.rngState.toInt)) =
        { t with drawn := t.drawn ++ [Text.decimal s.rngState.toInt] } :=
      if_pos (hfits.isDrawing_eq.trans hdrawing)
    have hdrawn := hfits.matches_rngState.draw
    rw [← hnote, ← hnext] at hdrawn
    obtain ⟨hinStream, hsaved⟩ := hdrawn.carries_saved hfault'
    exact ⟨⟨hfits.matches_rngState.drawn_eq, by rintro _ ⟨⟩, hinStream⟩, hsaved⟩
  · obtain ⟨hstay, hcarries⟩ := hfits.carries_of_quiet hdoes.saved_notMem hquiet
    have hmatches : (visible.foldl Tally.note t).Matches s'.rngState := by
      rw [hstay, hkeeps]
      exact hfits.matches_rngState
    exact hcarries.trans (hmatches.carries_saved hfault')

theorem Course.carries (h : Course (.standard maxCount) s trace s') (hfits : t.Fits s) :
    t.Carries trace s' := by
  induction h generalizing t with
  | refl s => exact ⟨hfits.matches_rngState.drawn_eq, hfits⟩
  | @cons s s₁ s' visible trace hact hcourse ih =>
    have hfirst := hact.carries hfits
    rw [List.append_cons]
    exact hfirst.trans (ih hfirst.fits)

/-- However a session ends by itself, the slot has the next value of the stream then; a session that
is left has emptied it. -/
theorem Halt.carries {result : Except Error Unit} {rest : List String}
    (h : Halt (.standard maxCount) s tail result rest) (hfits : t.Fits s) :
    ∃ s', t.Carries tail s' := by
  cases h with
  | leave hpending hdemand =>
    refine ⟨.fresh, ⟨hfits.matches_rngState.drawn_eq, ?_, rfl⟩, Tally.fits_fresh⟩
    rintro _ ⟨⟩ hne
    exact absurd rfl hne
  | _ => exact ⟨s, (hfits.carries_of_quiet (by simp) fun _ => rfl).2⟩

end Session

structure GentleVisit where
  maxCount : UInt32
  lines : List String
  refusals : Nat → Option String := fun _ => none

namespace GentleVisit

def visit (v : GentleVisit) : Visit where
  maxCount := v.maxCount
  lines := v.lines
  refuseCall n := (v.refusals n).map fun reason => (.before, reason)

theorem carries (v : GentleVisit) {t : Tally} {s : Snapshot} (hfits : t.Fits s) :
    ∃ s', t.Carries (v.visit.run t.held).2.events s' := by
  have hgentle := Rehearsal.gentle_before t.held v.lines v.refusals
  rcases Session.run_of_gentle (r := .standard v.maxCount) hgentle rfl hfits.restore_eq with
    ⟨trace, ⟨course, tail, s₁, hcourse, hend, rfl, -⟩, hfollows⟩ |
    ⟨trace, tail, s₁, error, hcourse, hfollows, hidle, -⟩
  · have hfirst := hcourse.carries hfits
    obtain ⟨s', htail⟩ := (Session.halt_of_ends hend).carries hfirst.fits
    have hevents : (v.visit.run t.held).2.events = course ++ tail := hfollows.events_eq
    rw [hevents]
    exact ⟨s', hfirst.trans htail⟩
  · have hfirst := hcourse.carries hfits
    have hevents : (v.visit.run t.held).2.events = trace ++ tail := hfollows.events_eq
    obtain ⟨-, htail⟩ := hfirst.fits.carries_of_quiet hidle.saved_notMem fun _ =>
      hidle.linesWritten_eq
    rw [hevents]
    exact ⟨s₁, hfirst.trans htail⟩

end GentleVisit

def history (blob : Bytes) : List Visit → List Event
  | [] => []
  | v :: visits =>
    let events := (v.run blob).2.events
    events ++ history (lastSaved blob events) visits

theorem inStream_history (visits : List GentleVisit) {t : Tally} {s : Snapshot}
    (hfits : t.Fits s) : t.InStream (history t.held (visits.map GentleVisit.visit)) := by
  induction visits generalizing t s with
  | nil => exact hfits.matches_rngState.drawn_eq
  | cons v visits ih =>
    obtain ⟨s', hinStream, hfits'⟩ := v.carries hfits
    have hlater := ih hfits'
    rw [Tally.held_foldl_note] at hlater
    exact hinStream.append hlater

/-- Whatever was run on a slot that was empty at first, with calls refused before their effect, the
lines that random sequences have written since the session was last left are at every moment the
first values of the stream from the seed, and every snapshot that is saved has the next value. -/
theorem drawn_history (visits : List GentleVisit) (n : Nat) :
    let events := history [] (visits.map GentleVisit.visit)
    let t := (events.take n).foldl Tally.note {}
    t.drawn = (List.range t.drawn.length).map
        (fun k => Text.decimal (420 * 16807 ^ k % 2147483647)) ∧
      ∀ blob, events[n]? = some (.saved blob) → blob ≠ [] →
        ∃ s, Snapshot.decode blob = .ok (some s) ∧
          s.rngState.toInt = 420 * 16807 ^ t.drawn.length % 2147483647 := by
  intro events t
  exact (inStream_history visits Tally.fits_fresh).take n

end DurableCalc
