import DurableCalc.Proofs.Command.Growth
import DurableCalc.Proofs.Session.Move

/-!
# Acts of a session

A session that works on a job can be taken up again from its snapshot alone, so that what it does
between two saved snapshots is a relation between them. An act takes a line as pending, takes a job
one step further, or completes a line; none of them leaves the bounds of a snapshot.
-/

namespace DurableCalc

theorem Step.does_toMove {s s' : Snapshot} {wrap : Job → σ} {conclude : String → Move σ}
    {finished : Move σ} {step : Step Job} {visible : List Event} {k : σ}
    (h : (step.toMove s wrap conclude finished).Does visible s' k) :
    (∃ job rng, step.Does s.rngState visible job rng ∧
      s' = { s.stage job.progress with rngState := rng } ∧ k = wrap job) ∨
    (∃ last, step = .conclude last ∧ (conclude last).Does visible s' k) ∨
    (step = .finished ∧ finished.Does visible s' k) := by
  cases step with
  | ask accept =>
    cases h with
    | @ask _ line _ _ haccept =>
      cases hline : accept line with
      | error error => simp [hline] at haccept
      | ok job =>
        simp only [hline, Except.ok.injEq, Prod.mk.injEq] at haccept
        obtain ⟨rfl, rfl⟩ := haccept
        exact .inl ⟨job, s.rngState, .ask hline, rfl, rfl⟩
  | tell line job =>
    cases h
    exact .inl ⟨job, s.rngState, .tell, rfl, rfl⟩
  | draw job =>
    cases h
    exact .inl ⟨job, _, .draw, rfl, rfl⟩
  | save job =>
    cases h
    exact .inl ⟨job, s.rngState, .save, rfl, rfl⟩
  | conclude last => exact .inr (.inl ⟨last, rfl, h⟩)
  | finished => exact .inr (.inr ⟨rfl, h⟩)
  | refuse error => cases h
  | reject error => cases h

theorem Step.toMove_does {s : Snapshot} {wrap : Job → σ} {conclude : String → Move σ}
    {finished : Move σ} {step : Step Job} {visible : List Event} {job : Job} {rng : Int64}
    (h : step.Does s.rngState visible job rng) :
    (step.toMove s wrap conclude finished).Does visible
      { s.stage job.progress with rngState := rng } (wrap job) := by
  cases h with
  | ask haccept =>
    apply Move.Does.ask
    rw [haccept]
    rfl
  | tell => exact .tell
  | draw => exact .tell
  | save => exact .save

namespace Session

variable {r : Registry} {s s' : Snapshot} {job job' : Job} {line : String}
  {visible : List Event}

def AtWork (r : Registry) (s : Snapshot) (job : Job) : Prop :=
  ∃ line, s.pendingInput = some line ∧ demand r s line = .work job

/-- A control state for which the snapshot can stand. -/
def Settled (r : Registry) (s : Snapshot) : Option Job → Prop
  | none => True
  | some job => AtWork r s job

theorem next_of_atWork (h : AtWork r s job) : next r s none = workOn s job := by
  obtain ⟨line, hpending, hdemand⟩ := h
  simp [next, hpending, hdemand]

theorem next_of_settled {k : Option Job} (h : Settled r s k) : next r s k = next r s none := by
  cases k with
  | none => rfl
  | some job => exact (next_of_atWork h).symm

theorem demand_eq_work_iff :
    demand r s line = .work job ↔
      Text.fold (Text.trim line) ≠ exitKeyword ∧ r.lookup (Text.trim line) = some job.command ∧
      (∀ p, s.command = some p → p.kind = job.command.kind) ∧ job = .start job.command s := by
  constructor
  · intro h
    unfold demand at h
    dsimp only at h
    split at h
    · cases h
    rename_i hexit
    split at h
    · cases h
    · cases h
    · rename_i c hlookup hcommand
      cases h
      simp [hexit, hlookup, hcommand]
    · rename_i c p hlookup hcommand
      split at h
      · rename_i hkind
        cases h
        simp [hexit, hlookup, hcommand, hkind]
      · cases h
  · rintro ⟨hexit, hlookup, hkind, hstart⟩
    cases hcommand : s.command with
    | none => simpa [demand, hexit, hlookup, hcommand] using hstart.symm
    | some p => simpa [demand, hexit, hlookup, hcommand, hkind p hcommand] using hstart.symm

theorem eq_exit_of_demand (h : demand r s line = .leave) :
    Text.fold (Text.trim line) = exitKeyword := by
  unfold demand at h
  dsimp only at h
  repeat' split at h
  all_goals first | assumption | cases h

/-- A session works on its job until the job has ended. -/
theorem AtWork.stage (h : AtWork r s job) (hcommand : job'.command = job.command) (rng : Int64) :
    AtWork r { s.stage job'.progress with rngState := rng } job' := by
  obtain ⟨line, hpending, hdemand⟩ := h
  obtain ⟨hexit, hlookup, -, -⟩ := demand_eq_work_iff.1 hdemand
  refine ⟨line, hpending, demand_eq_work_iff.2 ⟨hexit, hcommand ▸ hlookup, ?_, ?_⟩⟩
  · rintro p ⟨⟩
    exact job'.kind_progress
  · exact (Job.start_command rfl).symm

theorem AtWork.unique (h : AtWork r s job) (h' : AtWork r s job') : job = job' := by
  obtain ⟨line, hpending, hdemand⟩ := h
  obtain ⟨line', hpending', hdemand'⟩ := h'
  rw [hpending] at hpending'
  cases hpending'
  rw [hdemand] at hdemand'
  cases hdemand'
  rfl

inductive Act (r : Registry) (s : Snapshot) : List Event → Snapshot → Prop
  | take (hidle : s.pendingInput = none) (line : String) :
      Act r s [.read line] { s with pendingInput := some line }
  | work {job job' : Job} {rng : Int64} {visible : List Event} (hwork : AtWork r s job)
      (hdoes : job.next.Does s.rngState visible job' rng) :
      Act r s visible { s.stage job'.progress with rngState := rng }
  | unknown {line name : String} (hpending : s.pendingInput = some line)
      (hdemand : demand r s line = .unknown name) : Act r s [.wrote unknownMessage] s.completed
  | conclude {job : Job} {last : String} (hwork : AtWork r s job)
      (hnext : job.next = .conclude last) : Act r s [.wrote last] s.completed
  | finish {job : Job} (hwork : AtWork r s job) (hnext : job.next = .finished) :
      Act r s [] s.completed

theorem Act.exists_does (h : Act r s visible s') :
    ∃ k, (next r s none).Does visible s' k := by
  cases h with
  | take hidle line =>
    simp only [next, hidle]
    exact ⟨none, .ask rfl⟩
  | work hwork hdoes =>
    rw [next_of_atWork hwork]
    exact ⟨_, Step.toMove_does hdoes⟩
  | unknown hpending hdemand =>
    simp only [next, hpending, hdemand]
    exact ⟨none, .tell⟩
  | conclude hwork hnext =>
    rw [next_of_atWork hwork, workOn, hnext]
    exact ⟨none, .tell⟩
  | finish hwork hnext =>
    rw [next_of_atWork hwork, workOn, hnext]
    exact ⟨none, .save⟩

/-- A move that does not stop is an act, and the snapshot after it can stand for the control. -/
theorem act_of_does {k : Option Job} (h : (next r s none).Does visible s' k) :
    Act r s visible s' ∧ Settled r s' k := by
  cases hpending : s.pendingInput with
  | none =>
    simp only [next, hpending] at h
    cases h with
    | ask haccept =>
      cases haccept
      exact ⟨.take hpending _, trivial⟩
  | some line =>
    cases hdemand : demand r s line with
    | leave =>
      simp only [next, hpending, hdemand] at h
      cases h
    | refuse error =>
      simp only [next, hpending, hdemand] at h
      cases h
    | unknown name =>
      simp only [next, hpending, hdemand] at h
      cases h
      exact ⟨.unknown hpending hdemand, trivial⟩
    | work job =>
      have hwork : AtWork r s job := ⟨line, hpending, hdemand⟩
      rw [next_of_atWork hwork, workOn] at h
      rcases Step.does_toMove h with
        ⟨job', rng, hdoes, rfl, rfl⟩ | ⟨last, hnext, hend⟩ | ⟨hnext, hend⟩
      · exact ⟨.work hwork hdoes, hwork.stage (Job.grows_of_does hdoes).command_eq rng⟩
      · cases hend
        exact ⟨.conclude hwork hnext, trivial⟩
      · cases hend
        exact ⟨.finish hwork hnext, trivial⟩

theorem Act.fault? (h : Act r s visible s') (hfault : s.fault? = none) : s'.fault? = none := by
  cases h with
  | take hidle line =>
    simp [Snapshot.fault?, Snapshot.command_eq_none hfault hidle]
  | @work job job' rng _ hwork hdoes =>
    obtain ⟨line, hpending, hdemand⟩ := hwork
    obtain ⟨-, -, hkind, hstart⟩ := demand_eq_work_iff.1 hdemand
    have hjob : job.progress.fault? = none := hstart ▸ Job.fault?_start hfault hkind
    have hjob' : job'.progress.fault? = none := (Job.grows_of_does hdoes).fault? hjob
    rw [Snapshot.fault?_eq_none_iff]
    rintro p ⟨⟩
    exact ⟨hjob', by simp [Snapshot.stage, hpending]⟩
  | unknown hpending hdemand => rfl
  | conclude hwork hnext => rfl
  | finish hwork hnext => rfl

/-- How a session ends by itself: what is seen of it, its result, and the lines that are left. -/
inductive Halt (r : Registry) (s : Snapshot) :
    List Event → Except Error Unit → List String → Prop
  | dry (hidle : s.pendingInput = none) : Halt r s [.endOfInput] (.error .endOfInput) []
  | leave {line : String} {rest : List String} (hpending : s.pendingInput = some line)
      (hdemand : demand r s line = .leave) : Halt r s [.saved []] (.ok ()) rest
  | foreign {line : String} {error : SnapshotError} {rest : List String}
      (hpending : s.pendingInput = some line) (hdemand : demand r s line = .refuse error) :
      Halt r s [] (.error (.snapshot error)) rest
  | refuse {job : Job} {error : SnapshotError} {rest : List String} (hwork : AtWork r s job)
      (hnext : job.next = .refuse error) : Halt r s [] (.error (.snapshot error)) rest
  | reject {job : Job} {error : InputError} {rest : List String} (hwork : AtWork r s job)
      (hnext : job.next = .reject error) : Halt r s [] (.error (.input error)) rest
  | stall {job : Job} {accept : String → Except InputError Job} (hwork : AtWork r s job)
      (hnext : job.next = .ask accept) : Halt r s [.endOfInput] (.error .endOfInput) []
  | misread {job : Job} {accept : String → Except InputError Job} {line : String}
      {error : InputError} {rest : List String} (hwork : AtWork r s job)
      (hnext : job.next = .ask accept) (haccept : accept line = .error error) :
      Halt r s [.read line] (.error (.input error)) rest

variable {tail : List Event} {result : Except Error Unit} {rest : List String}

theorem halt_of_ends (h : (next r s none).Ends tail result rest) : Halt r s tail result rest := by
  cases hpending : s.pendingInput with
  | none =>
    simp only [next, hpending] at h
    cases h with
    | dry => exact .dry hpending
    | misread haccept => cases haccept
  | some line =>
    cases hdemand : demand r s line with
    | leave =>
      simp only [next, hpending, hdemand] at h
      cases h
      exact .leave hpending hdemand
    | refuse error =>
      simp only [next, hpending, hdemand] at h
      cases h
      exact .foreign hpending hdemand
    | unknown name =>
      simp only [next, hpending, hdemand] at h
      cases h
    | work job =>
      have hwork : AtWork r s job := ⟨line, hpending, hdemand⟩
      rw [next_of_atWork hwork, workOn] at h
      cases hnext : job.next with
      | refuse error =>
        rw [hnext] at h
        cases h
        exact .refuse hwork hnext
      | reject error =>
        rw [hnext] at h
        cases h
        exact .reject hwork hnext
      | ask accept =>
        rw [hnext] at h
        cases h with
        | dry => exact .stall hwork hnext
        | @misread _ line _ _ hread =>
          cases haccept : accept line with
          | ok job' => simp [haccept] at hread
          | error error =>
            simp only [haccept, Except.error.injEq] at hread
            exact hread ▸ .misread hwork hnext haccept
      | tell line next =>
        rw [hnext] at h
        cases h
      | draw next =>
        rw [hnext] at h
        cases h
      | save next =>
        rw [hnext] at h
        cases h
      | conclude line =>
        rw [hnext] at h
        cases h
      | finished =>
        rw [hnext] at h
        cases h

theorem Halt.ends (h : Halt r s tail result rest) : (next r s none).Ends tail result rest := by
  cases h with
  | dry hidle =>
    simp only [next, hidle]
    exact .dry
  | leave hpending hdemand =>
    simp only [next, hpending, hdemand]
    exact .leave
  | foreign hpending hdemand =>
    simp only [next, hpending, hdemand]
    exact .stop
  | refuse hwork hnext =>
    rw [next_of_atWork hwork, workOn, hnext]
    exact .stop
  | reject hwork hnext =>
    rw [next_of_atWork hwork, workOn, hnext]
    exact .stop
  | stall hwork hnext =>
    rw [next_of_atWork hwork, workOn, hnext]
    exact .dry
  | misread hwork hnext haccept =>
    rw [next_of_atWork hwork, workOn, hnext]
    exact .misread (by rw [haccept])

theorem next_ne_conclude (last : String) : next r s none ≠ .conclude last := by
  intro h
  have hends : (next r s none).Ends [.wrote last] (.ok ()) [] := h ▸ .conclude
  cases halt_of_ends hends

theorem Halt.ne_channel (h : Halt r s tail result rest) (error : ChannelError) :
    result ≠ .error (.channel error) := by
  cases h <;> simp

end Session

end DurableCalc
