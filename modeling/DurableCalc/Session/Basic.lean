import DurableCalc.Session.Machine
import DurableCalc.Command.Registry
import DurableCalc.Generator

/-!
# Sessions

A session takes a command line, saves it as pending, works on the command it calls until that is
finished, and saves that nothing is pending any more. Taken up again, it goes on with the pending
line. The word `exit` ends a session and empties its slot. An errand works on one command and then
stops.
-/

namespace DurableCalc

def Step.toMove (s : Snapshot) (wrap : Job → σ) (conclude : String → Move σ) (finished : Move σ) :
    Step Job → Move σ
  | .refuse error => .stop (.error (.snapshot error))
  | .reject error => .stop (.error (.input error))
  | .ask accept => .ask fun line =>
    match accept line with
    | .error error => .error (.input error)
    | .ok job => .ok (s.stage job.progress, wrap job)
  | .tell line job => .tell [] line (s.stage job.progress) (wrap job)
  | .draw job =>
    .tell [] (Text.decimal s.rngState.toInt)
      { s.stage job.progress with rngState := Generator.next s.rngState } (wrap job)
  | .save job => .save (s.stage job.progress) (wrap job)
  | .conclude line => conclude line
  | .finished => finished

/-- A move that a job goes on with leaves it less work, unless the move is the job's last. -/
theorem Job.work_toMove {s s' : Snapshot} {wrap : Job → σ} {conclude : String → Move σ}
    {finished : Move σ} {job : Job} {k : σ}
    (h : (job.next.toMove s wrap conclude finished).goesOn? = some (s', k)) :
    (∃ next, k = wrap next ∧ next.work < job.work) ∨
      (∃ last, (conclude last).goesOn? = some (s', k)) ∨ finished.goesOn? = some (s', k) := by
  cases hnext : job.next with
  | tell _ next | draw next | save next =>
    rw [hnext] at h
    cases h
    exact .inl ⟨next, rfl, work_lt (congrArg Step.goesOn? hnext)⟩
  | conclude last =>
    rw [hnext] at h
    exact .inr (.inl ⟨last, h⟩)
  | finished =>
    rw [hnext] at h
    exact .inr (.inr h)
  | _ => rw [hnext] at h; cases h

namespace Session

def exitKeyword : String := "exit"

def unknownMessage : String := "Unknown command, type help for the list of commands"

def unknownEntry (name : String) : Log.Entry :=
  { level := .warn
    part := .session
    message := "unknown command"
    fields := [("input", .text name)] }

inductive Demand
  | leave
  | refuse (error : SnapshotError)
  | unknown (name : String)
  | work (job : Job)

/-- Reads a pending line together with the progress that was saved for it. -/
def demand (r : Registry) (s : Snapshot) (line : String) : Demand :=
  let name := Text.trim line
  if Text.fold name = exitKeyword then .leave
  else
    match r.lookup name, s.command with
    | none, none => .unknown name
    | none, some p => .refuse (.foreignProgress p.kind name)
    | some c, none => .work (.start c s)
    | some c, some p =>
      if c.kind = p.kind then .work (.start c s) else .refuse (.foreignProgress p.kind name)

/-- A step of a job; its end is saved as completion. -/
def workOn (s : Snapshot) (job : Job) : Move (Option Job) :=
  job.next.toMove s some (fun line => .tell [] line s.completed none) (.save s.completed none)

def next (r : Registry) (s : Snapshot) : Option Job → Move (Option Job)
  | some job => workOn s job
  | none =>
    match s.pendingInput with
    | none => .ask fun line => .ok ({ s with pendingInput := some line }, none)
    | some line =>
      match demand r s line with
      | .leave => .leave
      | .refuse error => .stop (.error (.snapshot error))
      | .unknown name => .tell [unknownEntry name] unknownMessage s.completed none
      | .work job => workOn s job

/-- A bound on the moves before a session reads a line or stops. -/
def work (r : Registry) (s : Snapshot) : Option Job → Nat
  | some job => job.work + 1
  | none =>
    match s.pendingInput with
    | none => 0
    | some line =>
      match demand r s line with
      | .work job => job.work + 1
      | _ => 1

theorem work_completed (r : Registry) (s : Snapshot) : work r s.completed none = 0 := rfl

theorem work_workOn {r : Registry} {s s' : Snapshot} {job : Job} {k : Option Job}
    (h : (workOn s job).goesOn? = some (s', k)) : work r s' k < job.work + 1 := by
  rcases Job.work_toMove h with ⟨next, rfl, hlt⟩ | ⟨_, hend⟩ | hend
  · simpa [work] using hlt
  · cases hend
    simp [work_completed]
  · cases hend
    simp [work_completed]

theorem work_lt {r : Registry} {s s' : Snapshot} {k k' : Option Job}
    (h : (next r s k).goesOn? = some (s', k')) : work r s' k' < work r s k := by
  cases k with
  | some job => exact work_workOn h
  | none =>
    cases hp : s.pendingInput with
    | none => simp [next, hp, Move.goesOn?] at h
    | some pending =>
      cases hd : demand r s pending with
      | leave => simp [next, hp, hd, Move.goesOn?] at h
      | refuse error => simp [next, hp, hd, Move.goesOn?] at h
      | unknown name =>
        simp only [next, hp, hd] at h
        cases h
        rw [work_completed]
        simp [work, hp, hd]
      | work job =>
        simp only [next, hp, hd] at h
        simpa [work, hp, hd] using work_workOn (r := r) h

/-- The machine of a session; between two commands it has no job. -/
def machine (r : Registry) : Machine (Option Job) where
  next := next r
  work := work r
  work_lt := work_lt

variable {m : Type → Type} {ω : Type}

/-- Takes up the saved session and has its machine driven until it stops. -/
def runM [Monad m] [Calls m ω]
    (drive : Checkpointer → ω → m (Except Error Unit × Checkpointer × ω)) (w : ω) :
    m (Except Error Unit × ω) := do
  match ← Checkpointer.resumeM w with
  | (.error error, w) => return (.error error, w)
  | (.ok c, w) =>
    match ← drive c w with
    | (result, _, w) => return (result, w)

def closedEntry : Log.Entry :=
  { level := .info
    part := .commandLine
    message := "input closed, saved state kept for the next start" }

def runToEndM [Monad m] [Calls m ω]
    (drive : Checkpointer → ω → m (Except Error Unit × Checkpointer × ω)) (w : ω) :
    m (Except Error Unit × ω) := do
  match ← runM drive w with
  | (.error .endOfInput, w) => return (.ok (), ← Calls.note closedEntry w)
  | other => return other

variable [World ω]

def drive (r : Registry) (c : Checkpointer) (w : ω) : Except Error Unit × Checkpointer × ω :=
  (machine r).run c none w

def run (r : Registry) (w : ω) : Except Error Unit × ω :=
  runM (m := Id) (drive r) w

/-- Runs a session whose input may end at any point; what is saved then waits for the next start. -/
def runToEnd (r : Registry) (w : ω) : Except Error Unit × ω :=
  runToEndM (m := Id) (drive r) w

theorem run_eq (r : Registry) (w : ω) :
    run r w =
      match Checkpointer.resume w with
      | (.error error, w) => (.error error, w)
      | (.ok c, w) =>
        match (machine r).run c none w with
        | (result, _, w) => (result, w) :=
  rfl

theorem runToEnd_eq (r : Registry) (w : ω) :
    runToEnd r w =
      match run r w with
      | (.error .endOfInput, w) => (.ok (), World.note closedEntry w)
      | other => other :=
  rfl

end Session

namespace Errand

/-- A step of a job; its end is not saved. -/
def next (s : Snapshot) (job : Job) : Move Job :=
  job.next.toMove s id .conclude (.stop (.ok ()))

def machine : Machine Job where
  next := next
  work _ job := job.work
  work_lt {_ _ _ _} h := by
    rcases Job.work_toMove h with ⟨next, rfl, hlt⟩ | ⟨_, hend⟩ | hend
    · exact hlt
    · cases hend
    · cases hend

def run {ω : Type} [World ω] (command : Command) (c : Checkpointer) (w : ω) :
    Except Error Unit × Checkpointer × ω :=
  machine.run c (.start command c.snapshot) w

end Errand

end DurableCalc
