import DurableCalc.Proofs.Session.Passage

/-!
# Slot, memory and job in step

Whenever a session is about to read or write a line, the blob in its slot is that of the snapshot in
memory, and the job that it works on has the progress of that snapshot. From one line to the next it
saves once or twice: the second time to leave a topic or to complete a command, after which it asks
for a line.
-/

namespace DurableCalc

open Event

def Snapshot.progressOf (s : Snapshot) : Kind → Progress
  | .sum => .sum s.sumProgress
  | .median => .median s.medianProgress
  | .randomSequence => .randomSequence s.randomProgress
  | .help => .help s.helpProgress

theorem Job.progress_start_eq (c : Command) (s : Snapshot) :
    (Job.start c s).progress = s.progressOf c.kind := by
  cases c <;> rfl

def Move.isCall : Move σ → Bool
  | .ask _ | .tell .. | .conclude _ => true
  | .save .. | .leave | .stop _ => false

def Turn.world : Turn σ ω → ω
  | .going _ _ w => w
  | .over _ _ w => w

namespace Machine

variable {σ ω : Type} [World ω] {M : Machine σ}

/-- What log entries do not change, a save changes as far as the slot does. -/
theorem observe_saveThen (f : ω → α) (hnote : ∀ entry w, f (World.note entry w) = f w)
    (s : Snapshot) (k : σ) (c : Checkpointer) (w : ω) :
    f (saveThen s k c w).world = f (World.store s.commandName? s.encode w).2 := by
  simp only [saveThen_eq, Checkpointer.update_eq]
  generalize World.store s.commandName? s.encode w = attempt
  obtain ⟨result, w'⟩ := attempt
  cases result with
  | error error => rfl
  | ok _ => exact hnote _ w'

/-- What neither log entries nor the slot change, a move changes by what it reads or writes. -/
theorem observe_carryOut (f : ω → α) (hnote : ∀ entry w, f (World.note entry w) = f w)
    (hstore : ∀ command blob w, f (World.store command blob w).2 = f w) (move : Move σ)
    (c : Checkpointer) (w : ω) :
    f (carryOut move c w).world =
      match move with
      | .ask _ => f (World.readLine w).2
      | .tell entries line _ _ => f (World.writeLine line (World.noteAll entries w)).2
      | .conclude line => f (World.writeLine line w).2
      | .save .. | .leave | .stop _ => f w := by
  have hsave (s : Snapshot) (k : σ) (w : ω) : f (saveThen s k c w).world = f w :=
    (observe_saveThen f hnote s k c w).trans (hstore _ _ w)
  cases move with
  | ask accept =>
    simp only [carryOut_eq]
    generalize World.readLine w = attempt
    obtain ⟨result, w'⟩ := attempt
    cases result with
    | error error => rfl
    | ok line =>
      dsimp only
      split
      · rfl
      · exact hsave _ _ w'
  | tell entries line s k =>
    simp only [carryOut_eq]
    generalize World.writeLine line (World.noteAll entries w) = attempt
    obtain ⟨result, w'⟩ := attempt
    cases result with
    | error error => rfl
    | ok _ => exact hsave s k w'
  | save s k => exact hsave s k w
  | conclude line => rfl
  | leave =>
    have hclear := hstore none [] w
    simp only [carryOut_eq, Checkpointer.clear_eq]
    generalize World.store none [] w = attempt at hclear ⊢
    obtain ⟨result, w'⟩ := attempt
    cases result with
    | error error => exact hclear
    | ok _ => exact (hnote _ _).trans ((hnote _ w').trans hclear)
  | stop result => rfl

/-- A run from one configuration makes its moves in other ones: the first configuration itself and
those that its moves go on with. -/
inductive Passes (M : Machine σ) :
    Checkpointer → σ → ω → Checkpointer → σ → ω → Prop
  | start (c : Checkpointer) (k : σ) (w : ω) : Passes M c k w c k w
  | going {c c₁ c₂ : Checkpointer} {k k₁ k₂ : σ} {w w₁ w₂ : ω}
      (hgoing : carryOut (M.next c.snapshot k) c w = .going c₁ k₁ w₁)
      (hpasses : Passes M c₁ k₁ w₁ c₂ k₂ w₂) : Passes M c k w c₂ k₂ w₂

/-- A run goes on from every configuration that it passes. -/
theorem run_of_passes {c c' : Checkpointer} {k k' : σ} {w w' : ω}
    (h : M.Passes c k w c' k' w') : M.run c k w = M.run c' k' w' := by
  induction h with
  | start c k w => rfl
  | going hgoing _ ih => rw [run_going hgoing, ih]

end Machine

namespace Rehearsal

theorem channelCalls_takeLine (w : Rehearsal) : w.takeLine.2.channelCalls = w.channelCalls := by
  unfold takeLine
  split <;> rfl

theorem channelCalls_readLine (w : Rehearsal) :
    w.readLine.2.channelCalls = w.channelCalls + 1 := by
  unfold readLine
  split
  · exact channelCalls_takeLine w.countCall
  · rfl
  · exact channelCalls_takeLine w.countCall

theorem channelCalls_writeLine (line : String) (w : Rehearsal) :
    (w.writeLine line).2.channelCalls = w.channelCalls + 1 := by
  unfold writeLine
  split <;> rfl

theorem channelCalls_carryOut (move : Move σ) (c : Checkpointer) (w : Rehearsal) :
    (Machine.carryOut move c w).world.channelCalls =
      w.channelCalls + if move.isCall then 1 else 0 := by
  rw [Machine.observe_carryOut Rehearsal.channelCalls (fun _ _ => rfl) (fun _ _ _ => rfl)]
  cases move with
  | ask accept => exact channelCalls_readLine w
  | tell entries line s k =>
    dsimp only
    rw [noteAll_eq]
    exact channelCalls_writeLine line w
  | conclude line => exact channelCalls_writeLine line w
  | _ => rfl

/-- Every call of the channel is made by a move in a configuration that the run passes. -/
theorem exists_passes_of_lt_channelCalls {M : Machine σ} {c : Checkpointer} {k : σ}
    {w : Rehearsal} {n : Nat} (hle : w.channelCalls ≤ n)
    (hlt : n < (M.run c k w).2.2.channelCalls) :
    ∃ c' k' w', M.Passes c k w c' k' w' ∧ w'.channelCalls = n ∧
      (M.next c'.snapshot k').isCall = true := by
  fun_induction Machine.run M c k w with
  | case1 c k w result c' w' hover =>
    have hcalls := channelCalls_carryOut (M.next c.snapshot k) c w
    rw [hover] at hcalls
    simp only [Turn.world] at hcalls hlt
    refine ⟨c, k, w, .start c k w, ?_, ?_⟩ <;> grind
  | case2 c k w c' k' w' hgoing ih =>
    have hcalls := channelCalls_carryOut (M.next c.snapshot k) c w
    rw [hgoing] at hcalls
    simp only [Turn.world] at hcalls
    by_cases hnow : w'.channelCalls ≤ n
    · obtain ⟨c₂, k₂, w₂, hpasses, hn, hcall⟩ := ih hnow hlt
      exact ⟨c₂, k₂, w₂, .going hgoing hpasses, hn, hcall⟩
    · refine ⟨c, k, w, .start c k w, ?_, ?_⟩ <;> grind

end Rehearsal

def Event.isCall : Event → Bool
  | .read _ | .wrote _ => true
  | _ => false

def Event.isSave : Event → Bool
  | .saved _ => true
  | _ => false

/-- Traces in which every call comes one or two saves after the call before it; `since` is the
number of saves since the last call, if there was one. -/
def Event.Paced (since : Option Nat) : List Event → Prop
  | [] => True
  | event :: trace =>
    if event.isCall then (∀ n, since = some n → 1 ≤ n ∧ n ≤ 2) ∧ Paced (some 0) trace
    else Paced (if event.isSave then since.map (· + 1) else since) trace

namespace Event

variable {trace trace' between after : List Event} {since : Option Nat} {event : Event}

theorem paced_call (hcall : event.isCall = true) :
    Paced since (event :: trace) ↔
      (∀ n, since = some n → 1 ≤ n ∧ n ≤ 2) ∧ Paced (some 0) trace := by
  rw [Paced, if_pos hcall]

theorem paced_saved {blob : Bytes} :
    Paced since (.saved blob :: trace) ↔ Paced (since.map (· + 1)) trace :=
  Iff.rfl

theorem exists_paced_of_append (h : Paced since (trace ++ trace')) :
    ∃ later, Paced later trace' := by
  induction trace generalizing since with
  | nil => exact ⟨since, h⟩
  | cons event trace ih =>
    rw [List.cons_append, Paced] at h
    split at h
    · exact ih h.2
    · exact ih h

theorem countP_isSave_of_paced {n : Nat} (h : Paced (some n) (between ++ event :: after))
    (hcall : event.isCall = true) (hbetween : ∀ e ∈ between, e.isCall = false) :
    1 ≤ n + between.countP isSave ∧ n + between.countP isSave ≤ 2 := by
  induction between generalizing n with
  | nil => exact ((paced_call hcall).1 h).1 n rfl
  | cons e between ih =>
    have hquiet : e.isCall = false := hbetween e List.mem_cons_self
    have hlater : ∀ e ∈ between, e.isCall = false := fun e he =>
      hbetween e (List.mem_cons_of_mem _ he)
    rw [List.cons_append, Paced, if_neg (by simp [hquiet])] at h
    rw [List.countP_cons]
    split at h
    · rename_i hsave
      have hcount : 1 ≤ n + 1 + between.countP isSave ∧ n + 1 + between.countP isSave ≤ 2 :=
        ih h hlater
      rw [if_pos hsave]
      omega
    · rename_i hsave
      have hcount := ih h hlater
      rw [if_neg hsave]
      omega

end Event

namespace Session

variable {r : Registry} {s s' : Snapshot} {visible trace tail : List Event} {k k' : Option Job}
  {c c' : Checkpointer} {w w' : Rehearsal} {blob : Bytes}

def Meets {ω : Type} [World ω] (r : Registry) (w : ω) (c : Checkpointer) (k : Option Job)
    (w' : ω) : Prop :=
  ∃ c₀ w₀, Checkpointer.resume w = (.ok c₀, w₀) ∧ (machine r).Passes c₀ none w₀ c k w'

def job? (r : Registry) (s : Snapshot) : Option Job → Option Job
  | some job => some job
  | none =>
    match s.pendingInput with
    | none => none
    | some line =>
      match demand r s line with
      | .work job => some job
      | _ => none

/-- A configuration in which the slot holds the snapshot in memory and the job that the session
works on has the snapshot's progress. -/
structure InStep (r : Registry) (c : Checkpointer) (k : Option Job) (w : Rehearsal) : Prop where
  restore_eq : ∃ held, w.vault.slot = .memory held ∧ Snapshot.restore held = .ok c.snapshot
  progress_eq : ∀ job, job? r c.snapshot k = some job →
    job.progress = c.snapshot.progressOf job.command.kind

theorem atWork_of_job? {job : Job} (hsettled : Settled r s k) (h : job? r s k = some job) :
    AtWork r s job := by
  cases k with
  | some job' =>
    cases h
    exact hsettled
  | none =>
    unfold job? at h
    dsimp only at h
    split at h
    · cases h
    rename_i line hpending
    split at h
    · rename_i hdemand
      cases h
      exact ⟨line, hpending, hdemand⟩
    · cases h

theorem AtWork.progress_eq {job : Job} (h : AtWork r s job) :
    job.progress = s.progressOf job.command.kind := by
  obtain ⟨line, -, hdemand⟩ := h
  obtain ⟨-, -, -, hstart⟩ := demand_eq_work_iff.1 hdemand
  rw [hstart, Job.progress_start_eq, Job.command_start]

theorem course_of_passes (h : (machine r).Passes c k w c' k' w')
    (hslot : w.vault.slot = .memory blob) (hsettled : Settled r c.snapshot k) :
    ∃ trace, Course r c.snapshot trace c'.snapshot ∧ w.Follows trace w' ∧
      Settled r c'.snapshot k' := by
  induction h generalizing blob with
  | start c k w => exact ⟨[], .refl _, .refl hslot, hsettled⟩
  | @going c c₁ c₂ k k₁ k₂ w w₁ w₂ hgoing _ ih =>
    obtain ⟨visible, hact, hfollows, hsettled₁⟩ := act_of_going hslot hsettled hgoing
    obtain ⟨trace, hcourse, hfollows', hsettled₂⟩ := ih (hfollows.slot hslot) hsettled₁
    have hthrough := hfollows.trans hfollows'
    rw [List.append_assoc] at hthrough
    exact ⟨_, .cons hact hcourse, hthrough, hsettled₂⟩

theorem course_of_meets (hslot : w.vault.slot = .memory blob) (h : Meets r w c k w') :
    ∃ s trace, Snapshot.restore blob = .ok s ∧ Course r s trace c.snapshot ∧
      w.Follows trace w' ∧ Settled r c.snapshot k := by
  obtain ⟨c₀, w₀, hresume, hpasses⟩ := h
  rcases resume_or_fails hslot with ⟨error, hfails⟩ | ⟨c₁, hresume₁, hrestore⟩
  · rw [hfails] at hresume
    cases hresume
  · rw [hresume₁] at hresume
    cases hresume
    obtain ⟨trace, hcourse, hfollows, hsettled⟩ := course_of_passes hpasses hslot trivial
    exact ⟨c₀.snapshot, trace, hrestore, hcourse, hfollows, hsettled⟩

theorem exists_meets_of_lt {n : Nat} (hslot : w.vault.slot = .memory blob)
    (hload : w.vault.refuseLoad = none) (hcalls : w.channelCalls = 0)
    (hn : n < (run r w).2.channelCalls) :
    ∃ c k w', Meets r w c k w' ∧ w'.channelCalls = n ∧
      (next r c.snapshot k).isCall = true := by
  cases hrestore : Snapshot.restore blob with
  | error error =>
    rw [run_of_restore_error hslot hload hrestore, hcalls] at hn
    exact absurd hn n.not_lt_zero
  | ok s =>
    obtain ⟨c₀, hresume, -⟩ := exists_resume hslot hload hrestore
    rw [run_of_resume hresume] at hn
    obtain ⟨c, k, w', hpasses, hcall⟩ :=
      Rehearsal.exists_passes_of_lt_channelCalls (hcalls ▸ n.zero_le) hn
    exact ⟨c, k, w', ⟨c₀, w, hresume, hpasses⟩, hcall⟩

theorem inStep_of_meets (hslot : w.vault.slot = .memory blob)
    (hload : w.vault.refuseLoad = none) (h : Meets r w c k w') : InStep r c k w' := by
  obtain ⟨c₀, w₀, hresume, hpasses⟩ := h
  obtain ⟨rfl, hrestore⟩ := restore_of_resume hslot hload hresume
  obtain ⟨trace, hcourse, hfollows, hsettled⟩ := course_of_passes hpasses hslot trivial
  exact
    { restore_eq := ⟨_, hfollows.slot hslot, hcourse.restore_lastSaved hrestore⟩
      progress_eq := fun job hjob => (atWork_of_job? hsettled hjob).progress_eq }

/-- A session that saves without a line asks for a line next. -/
theorem Act.exists_ask (h : Act r s [] s') : ∃ accept, next r s' none = .ask accept := by
  cases h with
  | @work job job' rng _ hwork hdoes =>
    have hgrows := Job.grows_of_does hdoes
    rw [next_of_atWork (hwork.stage hgrows.command_eq rng), workOn]
    cases hgrows with
    | @leave guide p _ topic hintro htopic hstay hcursor =>
      have hask : (Job.help guide { p with topic := none, topicCursor := 0 }).next = _ :=
        Job.next_help_ask hintro rfl rfl
      rw [hask]
      exact ⟨_, rfl⟩
  | finish hwork hnext => exact ⟨_, rfl⟩

/-- How many saves since the last call a session may have behind it: one, or two where it asks for a
line next. -/
def Ready (r : Registry) (s : Snapshot) (since : Option Nat) : Prop :=
  ∀ n, since = some n → n = 1 ∨ n = 2 ∧ ∃ accept, next r s none = .ask accept

theorem Ready.bounds {since : Option Nat} (h : Ready r s since) :
    ∀ n, since = some n → 1 ≤ n ∧ n ≤ 2 := by
  intro n hn
  rcases h n hn with rfl | ⟨rfl, -⟩ <;> omega

theorem ready_one : Ready r s (some 1) := by
  rintro _ ⟨⟩
  exact .inl rfl

/-- The line that a move reads or writes comes in time. -/
theorem Ready.paced_visible {since : Option Nat} (h : Ready r s since)
    (hact : Act r s visible s') (hsaved : ∀ since, Ready r s' since → Paced since trace) :
    Paced since (visible ++ .saved s'.encode :: trace) := by
  obtain ⟨k, hdoes⟩ := hact.exists_does
  generalize hmove : next r s none = move at hdoes
  cases hdoes with
  | ask haccept => exact (paced_call rfl).2 ⟨h.bounds, paced_saved.2 (hsaved _ ready_one)⟩
  | tell => exact (paced_call rfl).2 ⟨h.bounds, paced_saved.2 (hsaved _ ready_one)⟩
  -- A save without a line is the second one, since after two saves the session asks for a line.
  | save =>
    refine paced_saved.2 (hsaved _ fun n hn => ?_)
    obtain ⟨m, hm, rfl⟩ := Option.map_eq_some_iff.1 hn
    rcases h m hm with rfl | ⟨-, accept, hask⟩
    · exact .inr ⟨rfl, hact.exists_ask⟩
    · rw [hmove] at hask
      cases hask

theorem Course.paced {since : Option Nat} (h : Course r s trace s') (hready : Ready r s since)
    (htail : ∀ since, Ready r s' since → Paced since tail) : Paced since (trace ++ tail) := by
  induction h generalizing since with
  | refl s => exact htail since hready
  | @cons s s₁ s' visible trace hact hcourse ih =>
    rw [List.append_assoc]
    exact hready.paced_visible hact fun since h => ih h htail

theorem paced_of_ends {since : Option Nat} {result : Except Error Unit} {rest : List String}
    (h : (next r s none).Ends tail result rest) (hready : Ready r s since) :
    Paced since tail := by
  cases halt_of_ends h with
  | misread hwork hnext haccept => exact (paced_call rfl).2 ⟨hready.bounds, trivial⟩
  | _ => trivial

theorem paced_of_breaks {since : Option Nat} {move : Move σ} {fault : Fault}
    (h : move.Breaks fault tail) (hready : Ready r s since) : Paced since tail := by
  have hcall {event : Event} (hevent : event.isCall = true) {refused : Event}
      (hrefused : refused.isCall = false) : Paced since [event, refused] := by
    refine (paced_call hevent).2 ⟨hready.bounds, ?_⟩
    rw [Paced, if_neg (by simp [hrefused])]
    trivial
  cases h with
  | ask hfault =>
    cases hfault with
    | after line => exact hcall rfl rfl
    | _ => trivial
  | tell hfault =>
    cases hfault with
    | after => exact hcall rfl rfl
    | before => trivial
  | conclude hfault =>
    cases hfault with
    | after => exact hcall rfl rfl
    | before => trivial
  | save hdoes =>
    cases hdoes with
    | save => trivial
    | _ => exact hcall rfl rfl
  | leave => trivial

theorem paced_run (hslot : w.vault.slot = .memory blob) (hload : w.vault.refuseLoad = none)
    (hevents : w.events = []) : Paced none (run r w).2.events := by
  cases hrestore : Snapshot.restore blob with
  | error error =>
    rw [run_of_restore_error hslot hload hrestore, hevents]
    trivial
  | ok s =>
    obtain ⟨trace, s', tail, hcourse, htrace, htail⟩ := events_run (r := r) hslot hload hrestore
    have hfirst : Ready r s none := by rintro _ ⟨⟩
    rw [htrace, hevents]
    refine hcourse.paced hfirst fun since hready => ?_
    rcases htail with ⟨result, rest, hend⟩ | ⟨fault, hbreak⟩
    · exact paced_of_ends hend hready
    · exact paced_of_breaks hbreak hready

/-- Every call of the channel is made in step: whatever the slot held at first and whatever is
refused, the slot then holds the snapshot in memory, and the job that the session works on has the
progress of that snapshot. Between a line that is read or written and the next one there are one or
two saves. -/
theorem calls_inStep (r : Registry) (blob : Bytes) (lines : List String)
    (refuseCall : Nat → Option (Moment × String)) (refuseStore : Nat → Option String) :
    let w := Rehearsal.opening blob lines refuseCall refuseStore
    let final := (run r w).2
    (∀ n < final.channelCalls, ∃ c k w', Meets r w c k w' ∧ w'.channelCalls = n ∧
      (next r c.snapshot k).isCall = true) ∧
    (∀ c k w', Meets r w c k w' → InStep r c k w') ∧
    ∀ before first between second after,
      final.events = before ++ first :: (between ++ second :: after) →
      first.isCall = true → second.isCall = true → (∀ e ∈ between, e.isCall = false) →
      1 ≤ between.countP isSave ∧ between.countP isSave ≤ 2 := by
  intro w final
  refine ⟨fun n => exists_meets_of_lt rfl rfl rfl, fun c k w' => inStep_of_meets rfl rfl, ?_⟩
  intro before first between second after hevents hfirst hsecond hbetween
  have hpaced : Paced none final.events := paced_run (w := w) rfl rfl rfl
  rw [hevents] at hpaced
  obtain ⟨since, hpaced⟩ := exists_paced_of_append hpaced
  have hcount := countP_isSave_of_paced ((paced_call hfirst).1 hpaced).2 hsecond hbetween
  omega

end Session

end DurableCalc
