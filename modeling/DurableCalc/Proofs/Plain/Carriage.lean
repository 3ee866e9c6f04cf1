import DurableCalc.Proofs.Generator
import DurableCalc.Proofs.Plain.Session
import DurableCalc.Proofs.Session.Course

/-!
# Talks carried by a session

A session that starts from a snapshot carries a talk when it says the same lines, leaves the same
rest, and reaches a snapshot fit for the talk's value or ends on the talk's error. Talks are carried
one after the other, and a job at work carries what its next step hears or says.
-/

namespace DurableCalc.Plain

open Event Session Talk

variable {r : Registry} {s s' s₁ : Snapshot} {lines rest : List String} {α β : Type}
  {Post : α → Snapshot → Prop}

/-- A session from a snapshot on some lines comes to an answer. If the answer gives a value, the
value and the snapshot that is reached with it are in `Post`. -/
inductive Carries (r : Registry) (s : Snapshot) (lines : List String) (a : Answer α)
    (Post : α → Snapshot → Prop) : Prop
  | stops {error : Error} {trace : List Event} (hresult : a.result = .error error)
      (hcomplete : Completes r s lines trace (.error error) a.rest)
      (hwritten : linesWritten trace = a.written)
  | gives {value : α} {trace : List Event} {s' : Snapshot} (hresult : a.result = .ok value)
      (hcourse : Course r s trace s') (hlines : lines = linesRead trace ++ a.rest)
      (hwritten : linesWritten trace = a.written) (hpost : Post value s')

theorem Carries.prepend {trace : List Event} {a : Answer α} (hcourse : Course r s trace s₁)
    (h : Carries r s₁ lines a Post) :
    Carries r s (linesRead trace ++ lines) (a.after (linesWritten trace)) Post := by
  cases h with
  | stops hresult hcomplete hwritten =>
    refine .stops hresult (hcomplete.prepend hcourse) ?_
    rw [linesWritten_append, hwritten]
    rfl
  | gives hresult hcourse' hlines hwritten hpost =>
    refine .gives hresult (hcourse.trans hcourse') ?_ ?_ hpost
    · rw [linesRead_append, List.append_assoc, hlines]
      rfl
    · rw [linesWritten_append, hwritten]
      rfl

/-- The line that is read first is no concern of the answer to the lines after it. -/
theorem Carries.read {line : String} {a : Answer α} (hact : Act r s [.read line] s₁)
    (h : Carries r s₁ lines a Post) : Carries r s (line :: lines) a Post :=
  h.prepend (.cons hact (.refl s₁))

def Conveys (r : Registry) (s : Snapshot) (t : Talk α) (Post : α → Snapshot → Prop) : Prop :=
  ∀ lines, Carries r s lines (t.answer lines) Post

theorem Carries.andThen {a : Answer α} {f : α → Talk β} {Post' : β → Snapshot → Prop}
    (h : Carries r s lines a Post)
    (hf : ∀ value s', Post value s' → Conveys r s' (f value) Post') :
    Carries r s lines (Talk.andThen a f) Post' := by
  unfold Talk.andThen
  cases h with
  | stops hresult hcomplete hwritten =>
    rw [hresult]
    exact .stops rfl hcomplete hwritten
  | gives hresult hcourse hlines hwritten hpost =>
    rw [hresult, hlines, ← hwritten]
    exact (hf _ _ hpost a.rest).prepend hcourse

namespace Conveys

theorem bind {t : Talk α} {f : α → Talk β} {Post' : β → Snapshot → Prop} (h : Conveys r s t Post)
    (hf : ∀ value s', Post value s' → Conveys r s' (f value) Post') :
    Conveys r s (t >>= f) Post' :=
  fun lines => (h lines).andThen hf

theorem pure {value : α} (hpost : Post value s) : Conveys r s (Pure.pure value) Post :=
  fun _ => .gives rfl (.refl s) rfl rfl hpost

/-- An act that shows nothing may come first. -/
theorem silent {t : Talk α} (hact : Act r s [] s₁) (h : Conveys r s₁ t Post) :
    Conveys r s t Post := by
  intro lines
  exact (h lines).prepend (.cons hact (.refl s₁))

theorem say {line : String} {Post : Unit → Snapshot → Prop} (hact : Act r s [.wrote line] s₁)
    (hpost : Post () s₁) : Conveys r s (Talk.say line) Post :=
  fun _ => .gives rfl (.cons hact (.refl s₁)) rfl rfl hpost

theorem sayAll_cons {line : String} {lines : List String} {Post : Unit → Snapshot → Prop}
    (hact : Act r s [.wrote line] s₁) (h : Conveys r s₁ (sayAll lines) Post) :
    Conveys r s (sayAll (line :: lines)) Post :=
  fun rest => (h rest).prepend (.cons hact (.refl s₁))

theorem course_of_sayAll {written : List String} {Post : Unit → Snapshot → Prop}
    (h : Conveys r s (sayAll written) Post) :
    ∃ trace s', Course r s trace s' ∧ linesRead trace = [] ∧ linesWritten trace = written ∧
      Post () s' := by
  cases h [] with
  | stops hresult => cases hresult
  | @gives _ trace s' _ hcourse hlines hwritten hpost =>
    have hnone : linesRead trace = [] := by simpa [sayAll] using hlines.symm
    exact ⟨trace, s', hcourse, hnone, hwritten, hpost⟩

end Conveys

def Idle (state : Int) (s : Snapshot) : Prop :=
  s.pendingInput = none ∧ s.command = none ∧ s.rngState.toInt = state

def Busy (r : Registry) (job : Job) (state : Int) (s : Snapshot) : Prop :=
  AtWork r s job ∧ s.rngState.toInt = state

section

variable {job job' : Job} {state : Int}

theorem Busy.act {visible : List Event} {rng : Int64} (h : Busy r job state s)
    (hdoes : job.next.Does s.rngState visible job' rng) :
    ∃ s', Act r s visible s' ∧ Busy r job' rng.toInt s' :=
  ⟨_, .work h.1 hdoes, h.1.stage (Job.grows_of_does hdoes).command_eq rng, rfl⟩

theorem Busy.hear {read : String → Except InputError α} {f : α → Job} (h : Busy r job state s)
    (hnext : job.next = .ask fun line => (read line).map f) :
    Conveys r s (Talk.hear read) fun value s' => Busy r (f value) state s' := by
  intro lines
  cases lines with
  | nil =>
    exact .stops rfl ⟨[], _, s, .refl s, (Halt.stall h.1 hnext).ends, rfl, rfl⟩ rfl
  | cons line rest =>
    cases hread : read line with
    | error error =>
      have haccept : (read line).map f = .error error := by
        rw [hread]
        rfl
      have hend : (next r s none).Ends [.read line] (.error (.input error)) rest :=
        (Halt.misread h.1 hnext haccept).ends
      have hanswer : (Talk.hear read).answer (line :: rest) =
          ⟨[], rest, .error (.input error)⟩ := by
        simp [Talk.hear, hread, Except.mapError]
      rw [hanswer]
      exact .stops rfl ⟨[], _, s, .refl s, hend, rfl, rfl⟩ rfl
    | ok value =>
      have haccept : (read line).map f = .ok (f value) := by
        rw [hread]
        rfl
      have hdoes : job.next.Does s.rngState [.read line] (f value) s.rngState :=
        hnext ▸ .ask haccept
      obtain ⟨s', hact, hbusy⟩ := h.act hdoes
      have hanswer : (Talk.hear read).answer (line :: rest) = ⟨[], rest, .ok value⟩ := by
        simp [Talk.hear, hread, Except.mapError]
      rw [hanswer]
      exact .gives rfl (.cons hact (.refl s')) rfl rfl ⟨hbusy.1, hbusy.2.trans h.2⟩

theorem Busy.say {line : String} (h : Busy r job state s) (hnext : job.next = .tell line job') :
    ∃ s', Act r s [.wrote line] s' ∧ Busy r job' state s' := by
  have hdoes : job.next.Does s.rngState [.wrote line] job' s.rngState := hnext ▸ .tell
  obtain ⟨s', hact, hbusy⟩ := h.act hdoes
  exact ⟨s', hact, hbusy.1, hbusy.2.trans h.2⟩

theorem Busy.save (h : Busy r job state s) (hnext : job.next = .save job') :
    ∃ s', Act r s [] s' ∧ Busy r job' state s' := by
  have hdoes : job.next.Does s.rngState [] job' s.rngState := hnext ▸ .save
  obtain ⟨s', hact, hbusy⟩ := h.act hdoes
  exact ⟨s', hact, hbusy.1, hbusy.2.trans h.2⟩

theorem Busy.draw (h : Busy r job state s) (hnext : job.next = .draw job') :
    ∃ s', Act r s [.wrote (Text.decimal state)] s' ∧ Busy r job' (advance state) s' := by
  have hdoes : job.next.Does s.rngState [.wrote (Text.decimal s.rngState.toInt)] job'
      (Generator.next s.rngState) := hnext ▸ .draw
  obtain ⟨s', hact, hbusy⟩ := h.act hdoes
  rw [h.2] at hact
  refine ⟨s', hact, hbusy.1, ?_⟩
  rw [hbusy.2, Generator.toInt_next, h.2, advance]
  omega

theorem Busy.conclude {last : String} (h : Busy r job state s)
    (hnext : job.next = .conclude last) :
    Conveys r s (Talk.say last) fun _ => Idle state :=
  .say (.conclude h.1 hnext) ⟨rfl, rfl, h.2⟩

theorem Busy.finish (h : Busy r job state s) (hnext : job.next = .finished) :
    ∃ s', Act r s [] s' ∧ Idle state s' :=
  ⟨_, .finish h.1 hnext, rfl, rfl, h.2⟩

theorem Busy.reject {error : InputError} (h : Busy r job state s)
    (hnext : job.next = .reject error) : Conveys r s (Talk.fail error : Talk α) Post :=
  fun _ => .stops rfl ⟨[], [], s, .refl s, (Halt.reject h.1 hnext).ends, rfl, rfl⟩ rfl

end

end DurableCalc.Plain
