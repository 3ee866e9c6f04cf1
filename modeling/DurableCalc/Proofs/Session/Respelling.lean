import DurableCalc.Proofs.Command.Spelling
import DurableCalc.Proofs.Session.Soundness
import DurableCalc.Proofs.Session.Transition
import Mathlib.Data.List.Forall2

/-!
# Two sessions on lines that are spelt differently

The lines are saved as they are and interpreted anew at every step. Snapshots that differ in the
spelling of such lines alone come to moves that differ in it alone, so that two runs on lines that
differ in spelling stay in step: event by event they do the same.
-/

namespace DurableCalc

open Event

/-- Snapshots that differ at most in the pending line and in the topic of `help`: the lines call the
same command, and the topics have the same block. -/
structure Snapshot.Alike (maxCount : UInt32) (s s' : Snapshot) : Prop where
  rngState : s.rngState = s'.rngState
  pendingInput : Option.Rel (SameCall maxCount) s.pendingInput s'.pendingInput
  command : Option.Rel Progress.Alike s.command s'.command

def HeldAlike (maxCount : UInt32) (blob blob' : Bytes) : Prop :=
  (blob = [] ∧ blob' = []) ∨
    ∃ s s', Snapshot.decode blob = .ok (some s) ∧ Snapshot.decode blob' = .ok (some s') ∧
      s.Alike maxCount s'

inductive Event.Alike (maxCount : UInt32) : Event → Event → Prop
  | read (line line' : String) : Alike maxCount (.read line) (.read line')
  | wrote (line : String) : Alike maxCount (.wrote line) (.wrote line)
  | saved {blob blob' : Bytes} (h : HeldAlike maxCount blob blob') :
      Alike maxCount (.saved blob) (.saved blob')
  | endOfInput : Alike maxCount .endOfInput .endOfInput

def Snapshot.role (s : Snapshot) : Role :=
  match s.pendingInput, s.command with
  | none, _ => .command
  | some _, some (.help _) => .topic
  | some _, _ => .number

def Role.under (held : Bytes) : Role :=
  match Snapshot.restore held with
  | .ok s => s.role
  | .error _ => .number

theorem Role.under_encode {s : Snapshot} (hfault : s.fault? = none) : under s.encode = s.role := by
  rw [under, Snapshot.restore_encode hfault]

/-- What the lines of a trace were read as, by a session whose slot held a blob at first. -/
def Event.roles (held : Bytes) : List Event → List Role
  | [] => []
  | .read _ :: trace => .under held :: roles held trace
  | .saved blob :: trace => roles blob trace
  | _ :: trace => roles held trace

/-- Lines of which the first ones are spelt alike for what they are read as, and of which the others
differ in blanks alone. -/
inductive Respelled : List Role → List String → List String → Prop
  | read {role : Role} {roles : List Role} {line line' : String} {lines lines' : List String}
      (hspells : role.Spells line line') (hrest : Respelled roles lines lines') :
      Respelled (role :: roles) (line :: lines) (line' :: lines')
  | unread {lines lines' : List String}
      (h : List.Forall₂ (fun line line' => Text.trim line = Text.trim line') lines lines') :
      Respelled [] lines lines'

variable {maxCount : UInt32} {limit : Nat} {s s' s₁ : Snapshot} {held held' : Bytes}
  {trace trace' visible tail : List Event} {lines lines' read rest : List String}
  {roles roles' : List Role}

namespace Event

theorem roles_append :
    Event.roles held (trace ++ trace') =
      Event.roles held trace ++ Event.roles (lastSaved held trace) trace' := by
  induction trace generalizing held with
  | nil => rfl
  | cons event trace ih =>
    cases event with
    | read line => exact congrArg (Role.under held :: ·) ih
    | _ => exact ih

theorem length_roles : (Event.roles held trace).length = (linesRead trace).length := by
  induction trace generalizing held with
  | nil => rfl
  | cons event trace ih =>
    cases event with
    | read line => exact congrArg (· + 1) ih
    | _ => exact ih

theorem lastSaved_alike (h : List.Forall₂ (Event.Alike maxCount) trace trace')
    (hheld : HeldAlike maxCount held held') :
    HeldAlike maxCount (lastSaved held trace) (lastSaved held' trace') := by
  induction h generalizing held held' with
  | nil => exact hheld
  | cons hevent _ ih =>
    cases hevent with
    | saved hsaved => exact ih hsaved
    | _ => exact ih hheld

theorem linesWritten_alike (h : List.Forall₂ (Event.Alike maxCount) trace trace') :
    linesWritten trace = linesWritten trace' := by
  induction h with
  | nil => rfl
  | cons hevent _ ih =>
    cases hevent with
    | wrote line => exact congrArg (line :: ·) ih
    | _ => exact ih

theorem length_linesRead_alike (h : List.Forall₂ (Event.Alike maxCount) trace trace') :
    (linesRead trace).length = (linesRead trace').length := by
  induction h with
  | nil => rfl
  | cons hevent _ ih =>
    cases hevent with
    | read line line' => exact congrArg (· + 1) ih
    | _ => exact ih

end Event

/-- The lines may be cut behind those that were read first. -/
theorem Respelled.split (h : Respelled (roles ++ roles') (read ++ rest) lines')
    (hlength : roles.length = read.length) :
    ∃ read' rest', lines' = read' ++ rest' ∧ Respelled roles read read' ∧
      Respelled roles' rest rest' := by
  induction roles generalizing read lines' with
  | nil =>
    obtain rfl := List.eq_nil_of_length_eq_zero hlength.symm
    exact ⟨[], lines', rfl, .unread .nil, h⟩
  | cons role roles ih =>
    cases read with
    | nil => cases hlength
    | cons line read =>
      cases h with
      | @read _ _ _ line' _ lines' hspells hrest =>
        obtain ⟨read', rest', rfl, hread, hrest'⟩ := ih hrest (Nat.succ.inj hlength)
        exact ⟨line' :: read', rest', rfl, .read hspells hread, hrest'⟩

inductive Move.Alike (Spells : String → String → Prop) (R : Snapshot → Snapshot → Prop) :
    Move σ → Move σ → Prop
  | ask {accept accept' : String → Except Error (Snapshot × σ)}
      (h : ∀ line line', Spells line line' →
        SameOutcome (fun next next' => R next.1 next'.1) (accept line) (accept' line')) :
      Alike Spells R (.ask accept) (.ask accept')
  | tell {entries entries' : List Log.Entry} (line : String) {s s' : Snapshot} {k k' : σ}
      (h : R s s') : Alike Spells R (.tell entries line s k) (.tell entries' line s' k')
  | save {s s' : Snapshot} {k k' : σ} (h : R s s') : Alike Spells R (.save s k) (.save s' k')
  | leave : Alike Spells R .leave .leave
  | stop (result : Except Error Unit) : Alike Spells R (.stop result) (.stop result)

namespace Move.Alike

variable {σ : Type} {move move' : Move σ} {k : σ} {R : Snapshot → Snapshot → Prop}

/-- On lines that are spelt alike, alike moves go on alike. -/
theorem does (maxCount : UInt32) (h : move.Alike (Role.under held).Spells R move')
    (hdoes : move.Does visible s k)
    (hlines : Respelled (Event.roles held visible) (linesRead visible) lines') :
    ∃ visible' s' k', move'.Does visible' s' k' ∧ R s s' ∧
      List.Forall₂ (Event.Alike maxCount) visible visible' ∧ linesRead visible' = lines' := by
  cases hdoes with
  | @ask accept line s k haccept =>
    cases h with
    | @ask _ accept' h =>
      cases hlines with
      | @read _ _ _ line' _ _ hspells hrest =>
        cases hrest with
        | unread hnil =>
          cases hnil
          have houtcome := h line line' hspells
          rw [haccept] at houtcome
          generalize hnext : accept' line' = outcome at houtcome
          cases houtcome with
          | ok hsame => exact ⟨_, _, _, .ask hnext, hsame, .cons (.read line line') .nil, rfl⟩
  | @tell entries line s k =>
    cases h with
    | tell _ hsame =>
      cases hlines with
      | unread hnil =>
        cases hnil
        exact ⟨_, _, _, .tell, hsame, .cons (.wrote line) .nil, rfl⟩
  | save =>
    cases h with
    | save hsame =>
      cases hlines with
      | unread hnil =>
        cases hnil
        exact ⟨_, _, _, .save, hsame, .nil, rfl⟩

theorem ends {result : Except Error Unit} (maxCount : UInt32)
    (h : move.Alike (Role.under held).Spells R move')
    (hends : move.Ends tail result rest)
    (hlines : Respelled (Event.roles held tail) (linesRead tail ++ rest) lines') :
    ∃ tail' rest', move'.Ends tail' result rest' ∧
      List.Forall₂ (Event.Alike maxCount) tail tail' ∧ lines' = linesRead tail' ++ rest' := by
  cases hends with
  | dry =>
    cases h with
    | ask h =>
      cases hlines with
      | unread hnil =>
        cases hnil
        exact ⟨_, _, .dry, .cons .endOfInput .nil, rfl⟩
  | @misread accept line error rest haccept =>
    cases h with
    | @ask _ accept' h =>
      cases hlines with
      | @read _ _ _ line' _ _ hspells hrest =>
        have houtcome := h line line' hspells
        rw [haccept] at houtcome
        generalize hnext : accept' line' = outcome at houtcome
        cases houtcome with
        | error => exact ⟨_, _, .misread hnext, .cons (.read line line') .nil, rfl⟩
  | conclude => cases h
  | leave =>
    cases h with
    | leave => exact ⟨_, lines', .leave, .cons (.saved (.inl ⟨rfl, rfl⟩)) .nil, rfl⟩
  | stop =>
    cases h with
    | stop result => exact ⟨_, lines', .stop, .nil, rfl⟩

end Move.Alike

namespace Step.Alike

variable {σ : Type} {step step' : Step σ} {Spells Spells' : String → String → Prop}
  {R : σ → σ → Prop}

/-- Steps that are alike on more pairs of lines are alike on fewer. -/
theorem mono (h : Step.Alike Spells R step step')
    (hspells : ∀ line line', Spells' line line' → Spells line line') :
    Step.Alike Spells' R step step' := by
  cases h with
  | refuse error => exact .refuse error
  | reject error => exact .reject error
  | ask h => exact .ask fun line line' hline => h line line' (hspells line line' hline)
  | tell line h => exact .tell line h
  | draw h => exact .draw h
  | save h => exact .save h
  | conclude line => exact .conclude line
  | finished => exact .finished

end Step.Alike

theorem Progress.Alike.kind_eq {p p' : Progress} (h : p.Alike p') : p.kind = p'.kind := by
  cases h <;> rfl

theorem HelpProgress.Alike.refl (p : HelpProgress) : p.Alike p where
  topic := by
    cases p.topic with
    | none => exact .none
    | some topic => exact .some ⟨Iff.rfl, rfl⟩
  introCursor := rfl
  topicCursor := rfl

theorem Job.alike_start (maxCount : UInt32) (k : Kind) (s : Snapshot) :
    (start (.standard maxCount k) s).Alike (start (.standard maxCount k) s) := by
  cases k with
  | sum => exact .sum _
  | median => exact .median _ _
  | randomSequence => exact .randomSequence _ _
  | help => exact .help (.refl _)

theorem Job.start_congr {c : Command} (h : s.command = s'.command) : start c s = start c s' := by
  cases c <;>
    simp [start, Snapshot.sumProgress, Snapshot.medianProgress, Snapshot.randomProgress,
      Snapshot.helpProgress, h]

namespace Snapshot.Alike

theorem command_eq_none (h : s.Alike maxCount s') (hcommand : s.command = none) :
    s'.command = none := by
  have hrel := h.command
  rw [hcommand] at hrel
  generalize s'.command = held' at hrel ⊢
  cases hrel
  rfl

theorem exists_command (h : s.Alike maxCount s') {p' : Progress} (hp' : s'.command = some p') :
    ∃ p, s.command = some p ∧ p.Alike p' := by
  have hrel := h.command
  rw [hp'] at hrel
  generalize s.command = held at hrel ⊢
  cases hrel with
  | @some p _ hp => exact ⟨p, rfl, hp⟩

theorem stage (h : s.Alike maxCount s') {p p' : Progress} (hp : p.Alike p') :
    (s.stage p).Alike maxCount (s'.stage p') :=
  ⟨h.rngState, h.pendingInput, .some hp⟩

theorem completed (h : s.Alike maxCount s') : s.completed.Alike maxCount s'.completed :=
  ⟨h.rngState, .none, .none⟩

theorem start (h : s.Alike maxCount s') (k : Kind) :
    (Job.start (.standard maxCount k) s).Alike (Job.start (.standard maxCount k) s') := by
  have hcommand := h.command
  generalize hs : s.command = p at hcommand
  generalize hs' : s'.command = p' at hcommand
  cases hcommand with
  | none =>
    rw [Job.start_congr (hs.trans hs'.symm)]
    exact Job.alike_start maxCount k s'
  | some hp =>
    cases hp with
    | same p =>
      rw [Job.start_congr (hs.trans hs'.symm)]
      exact Job.alike_start maxCount k s'
    | help hp =>
      cases k with
      | help => simpa [Command.standard, Job.start, helpProgress, hs, hs'] using Job.Alike.help hp
      | _ =>
        simp only [Command.standard, Job.start, sumProgress, medianProgress, randomProgress, hs,
          hs']
        constructor

end Snapshot.Alike

namespace Session

/-- What a job reads a line as, a session that works on it reads it as, or as a number. -/
theorem AtWork.spells {job : Job} (h : AtWork (.standard maxCount) s job) (line line' : String)
    (hspells : s.role.Spells line line') : job.role.Spells line line' := by
  obtain ⟨pending, hpending, hdemand⟩ := h
  obtain ⟨-, -, hkind, -⟩ := demand_eq_work_iff.1 hdemand
  have hnumber (hrole : s.role = .number) : job.role.Spells line line' := by
    rw [hrole] at hspells
    exact .of_trim_eq hspells job.role
  cases hcommand : s.command with
  | none => exact hnumber (by simp [Snapshot.role, hpending, hcommand])
  | some p =>
    have hkind := hkind p hcommand
    cases p with
    | help p =>
      have hrole : s.role = .topic := by simp [Snapshot.role, hpending, hcommand]
      cases job <;> cases hkind
      rwa [hrole] at hspells
    | _ => exact hnumber (by simp [Snapshot.role, hpending, hcommand])

theorem alike_workOn {Spells : String → String → Prop} {job job' : Job}
    (hs : s.Alike maxCount s') (h : Step.Alike Spells Job.Alike job.next job'.next) :
    Move.Alike Spells (Snapshot.Alike maxCount) (workOn s job) (workOn s' job') := by
  unfold workOn
  generalize job.next = step at h
  generalize job'.next = step' at h
  cases h with
  | refuse error => exact .stop _
  | reject error => exact .stop _
  | @ask accept accept' h =>
    refine .ask fun line line' hspells => ?_
    have houtcome := h line line' hspells
    generalize accept line = outcome at houtcome ⊢
    generalize accept' line' = outcome' at houtcome ⊢
    cases houtcome with
    | error error => exact .error _
    | ok hjob => exact .ok (hs.stage hjob.progress)
  | tell line hjob => exact .tell line (hs.stage hjob.progress)
  | draw hjob =>
    obtain ⟨hrng, hpending, hcommand⟩ := hs.stage hjob.progress
    simp only [Step.toMove, hs.rngState]
    exact .tell _ ⟨rfl, hpending, hcommand⟩
  | save hjob => exact .save (hs.stage hjob.progress)
  | conclude line => exact .tell line hs.completed
  | finished => exact .save hs.completed

/-- From alike snapshots, of which one is sound, a session makes alike moves. -/
theorem alike_next (h : s.Alike maxCount s') (hsound : s.Sound limit) :
    Move.Alike s.role.Spells (Snapshot.Alike maxCount) (next (.standard maxCount) s none)
      (next (.standard maxCount) s' none) := by
  have hinput := h.pendingInput
  generalize hpending : s.pendingInput = input at hinput
  generalize hpending' : s'.pendingInput = input' at hinput
  cases hinput with
  | none =>
    have hrole : s.role = .command := by simp [Snapshot.role, hpending]
    simp only [next, hpending, hpending', hrole]
    refine .ask fun line line' hspells => .ok ⟨h.rngState, .some ?_, h.command⟩
    exact hspells.sameCall maxCount
  | @some line line' hcall =>
    have hrefuse : ∀ error, demand (.standard maxCount) s line ≠ .refuse error :=
      demand_ne_refuse hsound hpending
    cases hdemand : demand (.standard maxCount) s line with
    | refuse error => exact absurd hdemand (hrefuse error)
    | leave =>
      have hexit := hcall.exit_iff.1 (eq_exit_of_demand hdemand)
      have hdemand' : demand (.standard maxCount) s' line' = .leave := by simp [demand, hexit]
      simp only [next, hpending, hpending', hdemand, hdemand']
      exact .leave
    | unknown name =>
      obtain ⟨hstay, hlookup, hcommand⟩ := unknown_of_demand hdemand
      have hstay' := mt hcall.exit_iff.2 hstay
      have hlookup' := hcall.lookup_eq.symm.trans hlookup
      have hdemand' : demand (.standard maxCount) s' line' = .unknown (Text.trim line') := by
        simp [demand, hstay', hlookup', h.command_eq_none hcommand]
      simp only [next, hpending, hpending', hdemand, hdemand']
      exact .tell _ h.completed
    | work job =>
      have hwork : AtWork (.standard maxCount) s job := ⟨line, hpending, hdemand⟩
      obtain ⟨-, k, -, -, -, hk⟩ := hwork.standard
      obtain ⟨hstay, hlookup, hkind, hstart⟩ := demand_eq_work_iff.1 hdemand
      rw [hk] at hlookup hkind hstart
      have hwork' : AtWork (.standard maxCount) s' (.start (.standard maxCount k) s') := by
        refine ⟨line', hpending', demand_eq_work_iff.2 ⟨mt hcall.exit_iff.2 hstay, ?_, ?_, ?_⟩⟩
        · rw [Job.command_start]
          exact hcall.lookup_eq.symm.trans hlookup
        · intro p' hp'
          obtain ⟨p, hp, hsame⟩ := h.exists_command hp'
          rw [Job.command_start, ← hsame.kind_eq]
          exact hkind p hp
        · rw [Job.command_start]
      have hjob : job.Alike (.start (.standard maxCount k) s') := hstart ▸ h.start k
      rw [next_of_atWork hwork, next_of_atWork hwork']
      exact alike_workOn h (hjob.next.mono hwork.spells)

/-- On lines that are spelt alike, a session follows alike courses from alike snapshots. -/
theorem Course.respelled (h : Course (.standard maxCount) s trace s₁)
    (hs : s.Alike maxCount s') (hsound : s.Sound maxCount.toNat) (hfault' : s'.fault? = none)
    (hheld : Snapshot.restore held = .ok s)
    (hlines : Respelled (Event.roles held trace ++ roles) (linesRead trace ++ rest) lines') :
    ∃ trace' s₁' rest', Course (.standard maxCount) s' trace' s₁' ∧ s₁.Alike maxCount s₁' ∧
      s₁.Sound maxCount.toNat ∧ List.Forall₂ (Event.Alike maxCount) trace trace' ∧
      lines' = linesRead trace' ++ rest' ∧ Respelled roles rest rest' := by
  induction h generalizing s' held lines' with
  | refl s => exact ⟨[], s', lines', .refl s', hs, hsound, .nil, rfl, hlines⟩
  | @cons s s₁ s₂ visible trace hact hcourse ih =>
    obtain ⟨k, hdoes⟩ := hact.exists_does
    have hrole : Role.under held = s.role := by rw [Role.under, hheld]
    have hsound₁ := hact.sound hsound (Nat.le_refl _)
    -- The lines that the act reads are cut off first; it is followed by an alike act.
    rw [roles_append, List.append_assoc, linesRead_append, List.append_assoc] at hlines
    obtain ⟨read', rest', rfl, hread, hlater⟩ := hlines.split Event.length_roles
    have hmoves := alike_next hs hsound
    rw [← hrole] at hmoves
    obtain ⟨visible', s₁', k', hdoes', hs₁, hvisible, rfl⟩ := hmoves.does maxCount hdoes hread
    obtain ⟨hact', -⟩ := act_of_does hdoes'
    have hfault₁ := hact'.fault? hfault'
    have hsaved : HeldAlike maxCount s₁.encode s₁'.encode := by
      refine .inr ⟨s₁, s₁', ?_, ?_, hs₁⟩
      · rw [Snapshot.decode_encode, hsound₁.fault?_eq]
      · rw [Snapshot.decode_encode, hfault₁]
    obtain ⟨trace', s₂', rest'', hcourse', hs₂, hsound₂, htrace, rfl, hrest⟩ :=
      ih hs₁ hsound₁ hfault₁ (Snapshot.restore_encode hsound₁.fault?_eq) hlater
    refine ⟨_, s₂', rest'', .cons hact' hcourse', hs₂, hsound₂, ?_, by simp, hrest⟩
    exact List.rel_append hvisible (.cons (.saved hsaved) htrace)

/-- On lines that are spelt alike, a session completes alike from alike snapshots. -/
theorem Completes.respelled {result : Except Error Unit}
    (h : Completes (.standard maxCount) s lines trace result rest)
    (hs : s.Alike maxCount s') (hsound : s.Sound maxCount.toNat) (hfault' : s'.fault? = none)
    (hheld : Snapshot.restore held = .ok s)
    (hlines : Respelled (Event.roles held trace) lines lines') :
    ∃ trace' rest', Completes (.standard maxCount) s' lines' trace' result rest' ∧
      List.Forall₂ (Event.Alike maxCount) trace trace' := by
  obtain ⟨course, tail, s₁, hcourse, hends, rfl, rfl⟩ := h
  rw [roles_append, linesRead_append, List.append_assoc] at hlines
  obtain ⟨course', s₁', rest₁, hcourse', hs₁, hsound₁, halike, rfl, hrest⟩ :=
    hcourse.respelled hs hsound hfault' hheld hlines
  have hrole : Role.under (lastSaved held course) = s₁.role := by
    rw [Role.under, hcourse.restore_lastSaved hheld]
  have hmoves := alike_next hs₁ hsound₁
  rw [← hrole] at hmoves
  obtain ⟨tail', rest', hends', htail, rfl⟩ := hmoves.ends maxCount hends hrest
  exact ⟨_, rest', ⟨course', tail', s₁', hcourse', hends', rfl, by simp⟩,
    List.rel_append halike htail⟩

/-- The spelling of lines does not matter to a session that starts from an empty slot. On any two
inputs whose lines differ in blanks alone, or, where the first run reads a command or a topic, in
letter case and in the choice of a name as well, two runs write the same lines, read equally many
and come to the same result. Event by event they do the same, and after each event their slots hold
nothing or alike snapshots. -/
theorem run_respelled (maxCount : UInt32) {lines lines' : List String}
    (hlines : Respelled
      (Event.roles [] (run (.standard maxCount) (Rehearsal.opening [] lines)).2.events)
      lines lines') :
    let final := run (.standard maxCount) (Rehearsal.opening [] lines)
    let final' := run (.standard maxCount) (Rehearsal.opening [] lines')
    final.1 = final'.1 ∧ linesWritten final.2.events = linesWritten final'.2.events ∧
      (linesRead final.2.events).length = (linesRead final'.2.events).length ∧
      List.Forall₂ (Event.Alike maxCount) final.2.events final'.2.events ∧
      ∀ n, HeldAlike maxCount (lastSaved [] (final.2.events.take n))
        (lastSaved [] (final'.2.events.take n)) := by
  intro final final'
  obtain ⟨trace, hcomplete, hfollows⟩ := run_opening (.standard maxCount) lines Snapshot.restore_nil
  obtain ⟨trace', hcomplete', hfollows'⟩ :=
    run_opening (.standard maxCount) lines' Snapshot.restore_nil
  have hevents : final.2.events = trace := hfollows.events_eq
  have hevents' : final'.2.events = trace' := hfollows'.events_eq
  have hfresh : Snapshot.fresh.Alike maxCount .fresh := ⟨rfl, .none, .none⟩
  have hspelt : Respelled (Event.roles [] trace) lines lines' := hevents ▸ hlines
  obtain ⟨trace'', rest', hrespelled, halike⟩ :=
    hcomplete.respelled hfresh (Snapshot.sound_fresh _) rfl Snapshot.restore_nil hspelt
  obtain ⟨rfl, hresult, -⟩ := hcomplete'.unique hrespelled
  rw [hevents, hevents']
  exact ⟨hresult.symm, linesWritten_alike halike, length_linesRead_alike halike, halike,
    fun n => lastSaved_alike (List.forall₂_take n halike) (.inl ⟨rfl, rfl⟩)⟩

/-- Another name in capitals and other blanks around the operands: both runs refuse the same
operand, in the same words. -/
theorem run_respelled_sum :
    let lines := ["sum", " 7", "x"]
    let lines' := ["ADD ", "7\t", "x "]
    let final := run (.standard 5) (Rehearsal.opening [] lines)
    let final' := run (.standard 5) (Rehearsal.opening [] lines')
    let error : Error := .input (.notAnInteger "x" .invalidDigit)
    Respelled (Event.roles [] final.2.events) lines lines' ∧ final.1 = .error error ∧
      final'.1 = .error error := by
  intro lines lines' final final' error
  let called : Snapshot := { pendingInput := some "sum" }
  let half : Snapshot := called.stage (.sum { first := some 7 })
  have htake : Act (.standard 5) .fresh [.read "sum"] called := .take rfl "sum"
  have hwork : AtWork (.standard 5) called (.sum {}) := ⟨"sum", rfl, rfl⟩
  have hoperand : (Job.sum {}).next.Does seed [.read " 7"] (.sum { first := some 7 }) seed := by
    have hread : readInteger " 7" = .ok 7 := by decide
    exact .ask (by simp only [hread]; rfl)
  have hfirst : Act (.standard 5) called [.read " 7"] half := .work hwork hoperand
  have hwork' : AtWork (.standard 5) half (.sum { first := some 7 }) := ⟨"sum", rfl, rfl⟩
  have hread : readInteger "x" = .error (.notAnInteger "x" .invalidDigit) := by decide
  have hends : (next (.standard 5) half none).Ends [.read "x"] (.error error) [] :=
    (Halt.misread hwork' rfl (by simp only [hread]; rfl)).ends
  have hwhole : Completes (.standard 5) .fresh lines _ _ _ :=
    ⟨_, _, _, .cons htake (.cons hfirst (.refl _)), hends, rfl, rfl⟩
  obtain ⟨trace, hcomplete, hfollows⟩ := run_opening (.standard 5) lines Snapshot.restore_nil
  obtain ⟨rfl, hresult, -⟩ := hcomplete.unique hwhole
  have hevents : final.2.events = [.read "sum", .saved called.encode, .read " 7",
      .saved half.encode, .read "x"] := hfollows.events_eq
  have hroles : Event.roles [] final.2.events = [.command, .number, .number] := by
    have hcalled : Role.under called.encode = .number := Role.under_encode rfl
    have hhalf : Role.under half.encode = .number := Role.under_encode rfl
    rw [hevents]
    simp only [Event.roles, hcalled, hhalf]
    rfl
  have hname : SameName "sum" "ADD " := by
    unfold SameName
    decide
  have hseven : Text.trim " 7" = Text.trim "7\t" := by decide
  have hlast : Text.trim "x" = Text.trim "x " := by decide
  have hspelt : Respelled (Event.roles [] final.2.events) lines lines' := by
    rw [hroles]
    exact .read hname (.read hseven (.read hlast (.unread .nil)))
  exact ⟨hspelt, hresult, (run_respelled 5 hspelt).1.symm.trans hresult⟩

end Session

end DurableCalc
