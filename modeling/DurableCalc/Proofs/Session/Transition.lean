import DurableCalc.Proofs.Session.Passage

/-!
# What changes between two saves

A blob is saved for every change that a session makes, so that the states a slot holds one after the
other are related by one small transition: a line is taken as pending, the command that it calls
advances by one field or cursor, the line is completed, or the session is left. All else is as it
was in the state before.
-/

namespace DurableCalc

open Event

def Kind.opening : Kind → Progress
  | .sum => .sum {}
  | .median => .median {}
  | .randomSequence => .randomSequence {}
  | .help => .help {}

/-- One step of a command's progress: what is read or written in it, the progress after it, and the
state of the generator before and after it. -/
inductive Progress.Advances (rng : Int64) :
    Command → Progress → List Event → Progress → Int64 → Prop
  | first {p : SumProgress} {line : String} {value : Int64} (hfirst : p.first = none)
      (hread : readInteger line = .ok value) :
      Advances rng .sum (.sum p) [.read line] (.sum { p with first := some value }) rng
  | second {p : SumProgress} {line : String} {value : Int64} (hfirst : p.first ≠ none)
      (hsecond : p.second = none) (hread : readInteger line = .ok value) :
      Advances rng .sum (.sum p) [.read line] (.sum { p with second := some value }) rng
  | medianCount {maxCount : UInt32} {p : MedianProgress} {line : String} {count : UInt32}
      (hcount : p.count = none) (hread : readCount maxCount line = .ok count)
      (hle : count ≤ maxCount) :
      Advances rng (.median maxCount) (.median p) [.read line]
        (.median { p with count := some count }) rng
  | value {maxCount : UInt32} {p : MedianProgress} {line : String} {value : Int64}
      {count : UInt32} {n : UInt64} (hcount : p.count = some count)
      (hread : readInteger line = .ok value) (hn : n.toNat = p.nextIndex.toNat + 1)
      (hle : n.toNat ≤ count.toNat) :
      Advances rng (.median maxCount) (.median p) [.read line]
        (.median { p with values := p.values ++ [value], nextIndex := n }) rng
  | randomCount {maxCount : UInt32} {p : RandomProgress} {line : String} {count : UInt32}
      (hcount : p.count = none) (hread : readCount maxCount line = .ok count)
      (hle : count ≤ maxCount) :
      Advances rng (.randomSequence maxCount) (.randomSequence p) [.read line]
        (.randomSequence { p with count := some count }) rng
  | draw {maxCount : UInt32} {p : RandomProgress} {count n : UInt32}
      (hcount : p.count = some count) (hn : n.toNat = p.nextIndex.toNat + 1)
      (hle : n.toNat ≤ count.toNat) :
      Advances rng (.randomSequence maxCount) (.randomSequence p)
        [.wrote (Text.decimal rng.toInt)] (.randomSequence { p with nextIndex := n })
        (Generator.next rng)
  | intro {guide : Guide} {p : HelpProgress} {line : String} {n : UInt64}
      (hline : guide.intro[p.introCursor.toNat]? = some line)
      (hn : n.toNat = p.introCursor.toNat + 1) (hle : n.toNat ≤ guide.intro.length) :
      Advances rng (.help guide) (.help p) [.wrote line] (.help { p with introCursor := n }) rng
  | topic {guide : Guide} {p : HelpProgress} {line : String}
      (hintro : p.introCursor.toNat = guide.intro.length) (htopic : p.topic = none) :
      Advances rng (.help guide) (.help p) [.read line] (.help { p with topic := some line }) rng
  | line {guide : Guide} {p : HelpProgress} {topic line : String} {n : UInt64}
      (hintro : p.introCursor.toNat = guide.intro.length) (htopic : p.topic = some topic)
      (hstay : Text.trim topic ≠ Guide.leaveKeyword)
      (hline : (guide.block topic)[p.topicCursor.toNat]? = some line)
      (hn : n.toNat = p.topicCursor.toNat + 1) (hle : n.toNat ≤ (guide.block topic).length) :
      Advances rng (.help guide) (.help p) [.wrote line] (.help { p with topicCursor := n }) rng
  | reset {guide : Guide} {p : HelpProgress} {topic : String}
      (hintro : p.introCursor.toNat = guide.intro.length) (htopic : p.topic = some topic)
      (hstay : Text.trim topic ≠ Guide.leaveKeyword)
      (hcursor : p.topicCursor.toNat = (guide.block topic).length) :
      Advances rng (.help guide) (.help p) []
        (.help { p with topic := none, topicCursor := 0 }) rng

/-- A progress with which its command has done all that it had to do but write its last line, if it
has one. -/
inductive Progress.Concludes : Command → Progress → List Event → Prop
  | sum {p : SumProgress} {first second : Int64} (hfirst : p.first = some first)
      (hsecond : p.second = some second)
      (hfits : SumProgress.fits (first.toInt + second.toInt) = true) :
      Concludes .sum (.sum p) [.wrote (Text.decimal (first.toInt + second.toInt))]
  | median {maxCount : UInt32} {p : MedianProgress} {count : UInt32}
      (hcount : p.count = some count) (hall : p.nextIndex.toNat = count.toNat) :
      Concludes (.median maxCount) (.median p) [.wrote (Median.of p.values).text]
  | randomSequence {maxCount : UInt32} {p : RandomProgress} {count : UInt32}
      (hcount : p.count = some count) (hall : p.nextIndex = count) :
      Concludes (.randomSequence maxCount) (.randomSequence p) []
  | help {guide : Guide} {p : HelpProgress} {topic : String}
      (hintro : p.introCursor.toNat = guide.intro.length) (htopic : p.topic = some topic)
      (hleave : Text.trim topic = Guide.leaveKeyword) : Concludes (.help guide) (.help p) []

/-- The command that a pending line calls and its progress, which is the one it starts from if none
is saved. -/
structure Snapshot.Active (r : Registry) (s : Snapshot) (c : Command) (p : Progress) : Prop where
  called : ∃ line, s.pendingInput = some line ∧
    Text.fold (Text.trim line) ≠ Session.exitKeyword ∧ r.lookup (Text.trim line) = some c
  progress_eq : p = s.command.getD c.kind.opening
  kind_eq : p.kind = c.kind

/-- What is read or written between two saves, and what becomes of the state that is saved. A
session that is left saves no state. -/
inductive Snapshot.Transition (r : Registry) (s : Snapshot) :
    List Event → Option Snapshot → Prop
  | take {line : String} (hidle : s.pendingInput = none) (hcommand : s.command = none) :
      Transition r s [.read line] (some { s with pendingInput := some line })
  | advance {c : Command} {p q : Progress} {seen : List Event} {rng : Int64}
      (hactive : s.Active r c p) (hadvances : p.Advances s.rngState c seen q rng) :
      Transition r s seen (some { s with command := some q, rngState := rng })
  | complete {c : Command} {p : Progress} {seen : List Event} (hactive : s.Active r c p)
      (hconcludes : p.Concludes c seen) :
      Transition r s seen (some { s with pendingInput := none, command := none })
  | unknown {line : String} (hpending : s.pendingInput = some line)
      (hstay : Text.fold (Text.trim line) ≠ Session.exitKeyword)
      (hlookup : r.lookup (Text.trim line) = none) (hcommand : s.command = none) :
      Transition r s [.wrote Session.unknownMessage]
        (some { s with pendingInput := none, command := none })
  | leave {line : String} (hpending : s.pendingInput = some line)
      (hleave : Text.fold (Text.trim line) = Session.exitKeyword) : Transition r s [] none

structure Save where
  held : Bytes
  seen : List Event
  saved : Bytes

def Event.saves (held : Bytes) (seen : List Event) : List Event → List Save
  | [] => []
  | .saved blob :: trace => ⟨held, seen, blob⟩ :: saves blob [] trace
  | event :: trace => saves held (seen ++ [event]) trace

def Save.Transits (r : Registry) (x : Save) : Prop :=
  ∃ s next, Snapshot.restore x.held = .ok s ∧ Snapshot.decode x.saved = .ok next ∧
    s.Transition r x.seen next

namespace Job

variable {job job' : Job} {rng rng' : Int64} {visible : List Event} {last : String}

theorem Grows.advances (h : job.Grows rng visible job' rng') :
    job.progress.Advances rng job.command visible job'.progress rng' := by
  cases h with
  | first hfirst hread => exact .first hfirst hread
  | second hfirst hsecond hread => exact .second hfirst hsecond hread
  | medianCount hcount hread => exact .medianCount hcount hread (le_of_readCount hread)
  | @value _ p _ line value count hcount hlt hread =>
    have hnext := MedianProgress.toNat_nextIndex_push value hlt
    exact .value hcount hread hnext (hnext.trans_le hlt)
  | randomCount hcount hread => exact .randomCount hcount hread (le_of_readCount hread)
  | draw hcount hlt =>
    have hnext := RandomProgress.toNat_add_one hlt
    rw [UInt32.lt_iff_toNat_lt] at hlt
    exact .draw hcount hnext (by omega)
  | intro hlt hline htopic =>
    have hnext := HelpProgress.toNat_add_one hlt
    exact .intro hline hnext (by rw [Guide.length_intro]; omega)
  | topic topic hintro htopic hcursor => exact .topic hintro htopic
  | @line guide p _ topic line hintro htopic hstay hline =>
    have hlt := (List.getElem?_eq_some_iff.1 hline).1
    have hblock := guide.length_block_le topic
    have hnext : (p.topicCursor + 1).toNat = p.topicCursor.toNat + 1 :=
      HelpProgress.toNat_add_one (by omega)
    exact .line hintro htopic hstay hline hnext (by omega)
  | leave hintro htopic hstay hcursor => exact .reset hintro htopic hstay hcursor

theorem concludes_of_conclude (hfault : job.progress.fault? = none)
    (h : job.next = .conclude last) : job.progress.Concludes job.command [.wrote last] := by
  cases job with
  | sum p =>
    simp only [Job.next, SumProgress.next] at h
    split at h
    · cases h
    · cases h
    · rename_i first second hfirst hsecond
      split at h
      · rename_i hfits
        cases h
        exact .sum hfirst hsecond hfits
      · cases h
  | median maxCount p =>
    simp only [Job.next, MedianProgress.next] at h
    split at h
    · cases h
    · rename_i count hcount
      split at h
      · cases h
      · rename_i hnot
        cases h
        obtain ⟨hindex, hvalues⟩ : p.nextIndex.toNat = p.values.length ∧
            p.values.length ≤ count.toNat := by
          simpa [progress, Progress.fault?, hcount] using hfault
        exact .median hcount (by omega)
  | randomSequence maxCount p =>
    simp only [Job.next, RandomProgress.next] at h
    split at h <;> try split at h
    all_goals simp [Step.map] at h
  | help guide p =>
    simp only [Job.next, HelpProgress.next] at h
    repeat' split at h
    all_goals simp [Step.map] at h

theorem concludes_of_finished (hfault : job.progress.fault? = none) (h : job.next = .finished) :
    job.progress.Concludes job.command [] := by
  cases job with
  | sum p =>
    simp only [Job.next, SumProgress.next] at h
    split at h <;> try split at h
    all_goals simp [Step.map] at h
  | median maxCount p =>
    simp only [Job.next, MedianProgress.next] at h
    split at h <;> try split at h
    all_goals simp [Step.map] at h
  | randomSequence maxCount p =>
    simp only [Job.next, RandomProgress.next] at h
    split at h
    · cases h
    · rename_i count hcount
      split at h
      · cases h
      · rename_i hnot
        have hle : ¬ count < p.nextIndex := by
          simpa [progress, Progress.fault?, hcount] using hfault
        rw [UInt32.lt_iff_toNat_lt] at hnot hle
        exact .randomSequence hcount (UInt32.toNat_inj.1 (by omega))
  | help guide p =>
    simp only [Job.next, HelpProgress.next] at h
    split at h
    · cases h
    rename_i hwithin
    split at h
    · cases h
    rename_i hline
    have hge := List.getElem?_eq_none_iff.1 hline
    split at h
    · cases h
    rename_i topic htopic
    split at h
    · rename_i hleave
      exact .help (by omega) htopic hleave
    · split at h <;> cases h

end Job

namespace Session

variable {r : Registry} {s s' : Snapshot} {visible trace tail : List Event} {line : String}

theorem unknown_of_demand {name : String} (h : demand r s line = .unknown name) :
    Text.fold (Text.trim line) ≠ exitKeyword ∧ r.lookup (Text.trim line) = none ∧
      s.command = none := by
  unfold demand at h
  dsimp only at h
  split at h
  · cases h
  rename_i hstay
  split at h
  · rename_i hlookup hcommand
    exact ⟨hstay, hlookup, hcommand⟩
  · cases h
  · cases h
  · split at h <;> cases h

theorem AtWork.active {job : Job} (h : AtWork r s job) :
    s.Active r job.command job.progress := by
  obtain ⟨line, hpending, hdemand⟩ := h
  obtain ⟨hstay, hlookup, hkind, hstart⟩ := demand_eq_work_iff.1 hdemand
  refine ⟨⟨line, hpending, hstay, hlookup⟩, ?_, job.kind_progress⟩
  cases hcommand : s.command with
  | none =>
    rw [hstart, Job.start_of_command_none hcommand, Job.command_start]
    cases job.command <;> rfl
  | some p =>
    rw [hstart, Job.progress_start hcommand (hkind p hcommand)]
    rfl

theorem AtWork.fault? {job : Job} (h : AtWork r s job) (hfault : s.fault? = none) :
    job.progress.fault? = none := by
  obtain ⟨line, -, hdemand⟩ := h
  obtain ⟨-, -, hkind, hstart⟩ := demand_eq_work_iff.1 hdemand
  exact hstart ▸ Job.fault?_start hfault hkind

theorem Act.transition (h : Act r s visible s') (hfault : s.fault? = none) :
    s.Transition r visible (some s') := by
  cases h with
  | take hidle line => exact .take hidle (Snapshot.command_eq_none hfault hidle)
  | work hwork hdoes => exact .advance hwork.active (Job.grows_of_does hdoes).advances
  | unknown hpending hdemand =>
    obtain ⟨hstay, hlookup, hcommand⟩ := unknown_of_demand hdemand
    exact .unknown hpending hstay hlookup hcommand
  | conclude hwork hnext =>
    exact .complete hwork.active (Job.concludes_of_conclude (hwork.fault? hfault) hnext)
  | finish hwork hnext =>
    exact .complete hwork.active (Job.concludes_of_finished (hwork.fault? hfault) hnext)

theorem saves_append {held : Bytes} {seen : List Event} (h : ∀ blob, .saved blob ∉ visible) :
    saves held seen (visible ++ trace) = saves held (seen ++ visible) trace := by
  induction visible generalizing seen with
  | nil => simp
  | cons event visible ih =>
    have hlater : ∀ blob, .saved blob ∉ visible := fun blob hblob =>
      h blob (List.mem_cons_of_mem event hblob)
    have hskip : saves held seen (event :: (visible ++ trace)) =
        saves held (seen ++ [event]) (visible ++ trace) := by
      cases event with
      | saved blob => exact absurd List.mem_cons_self (h blob)
      | _ => rfl
    rw [List.cons_append, hskip, ih hlater, List.append_assoc]
    rfl

theorem saves_eq_nil {held : Bytes} {seen : List Event} (h : ∀ blob, .saved blob ∉ trace) :
    saves held seen trace = [] := by
  have hwhole : saves held seen (trace ++ []) = saves held (seen ++ trace) [] := saves_append h
  rwa [List.append_nil] at hwhole

/-- The saves of a course are transitions; what is saved after it comes after its last state. -/
theorem Course.transits {held : Bytes} (h : Course r s trace s')
    (hrestore : Snapshot.restore held = .ok s) :
    ∀ x ∈ saves held [] (trace ++ tail),
      x.Transits r ∨ x ∈ saves (lastSaved held trace) [] tail := by
  have hfault := Snapshot.fault?_of_restore hrestore
  induction h generalizing held with
  | refl s => exact fun x hx => .inr hx
  | @cons s s₁ s' visible trace hact hcourse ih =>
    obtain ⟨k, hdoes⟩ := hact.exists_does
    have hfault₁ := hact.fault? hfault
    have hlater := ih (Snapshot.restore_encode hfault₁) hfault₁
    rw [List.append_assoc, saves_append hdoes.saved_notMem]
    intro x hx
    rcases List.mem_cons.1 hx with rfl | hx
    · refine .inl ⟨s, some s₁, hrestore, ?_, hact.transition hfault⟩
      rw [Snapshot.decode_encode, hfault₁]
    · exact (hlater x hx).imp_right (by simp)

theorem transits_of_ends {held : Bytes} {result : Except Error Unit} {rest : List String}
    (h : (next r s none).Ends tail result rest) (hrestore : Snapshot.restore held = .ok s) :
    ∀ x ∈ saves held [] tail, x.Transits r := by
  intro x hx
  cases halt_of_ends h with
  | leave hpending hdemand =>
    obtain rfl := List.mem_singleton.1 hx
    exact ⟨s, none, hrestore, rfl, .leave hpending (eq_exit_of_demand hdemand)⟩
  | _ => cases hx

/-- Every two states that a slot holds one after the other in a run are related by one transition,
whatever is refused in the run and wherever it ends. -/
theorem transits_of_mem_saves (r : Registry) (blob : Bytes) (lines : List String)
    (refuseCall : Nat → Option (Moment × String)) (refuseStore : Nat → Option String) :
    ∀ x ∈ saves blob [] (run r (Rehearsal.opening blob lines refuseCall refuseStore)).2.events,
      x.Transits r := by
  cases hrestore : Snapshot.restore blob with
  | error error =>
    rw [run_of_restore_error rfl rfl hrestore]
    exact fun x hx => by cases hx
  | ok s =>
    obtain ⟨trace, s', tail, hcourse, hevents, htail⟩ := events_run (r := r)
      (w := Rehearsal.opening blob lines refuseCall refuseStore) rfl rfl hrestore
    rw [hevents]
    intro x hx
    rcases hcourse.transits hrestore x hx with htransits | hx
    · exact htransits
    · rcases htail with ⟨result, rest, hend⟩ | ⟨fault, hbreak⟩
      · exact transits_of_ends hend (hcourse.restore_lastSaved hrestore) x hx
      · rw [saves_eq_nil hbreak.saved_notMem] at hx
        cases hx

/-- A session that adds two numbers and is left saves six times. -/
theorem transits_sum_exit :
    let taken : Snapshot := { pendingInput := some "sum" }
    let half := taken.stage (.sum { first := some 1 })
    let full := taken.stage (.sum { first := some 1, second := some 2 })
    let leaving : Snapshot := { pendingInput := some "exit" }
    let expected : List Save := [
      ⟨[], [.read "sum"], taken.encode⟩,
      ⟨taken.encode, [.read "1"], half.encode⟩,
      ⟨half.encode, [.read "2"], full.encode⟩,
      ⟨full.encode, [.wrote "3"], Snapshot.fresh.encode⟩,
      ⟨Snapshot.fresh.encode, [.read "exit"], leaving.encode⟩,
      ⟨leaving.encode, [], []⟩]
    let events := (run (.standard 5) (Rehearsal.opening [] ["sum", "1", "2", "exit"])).2.events
    saves [] [] events = expected ∧ ∀ x ∈ expected, x.Transits (.standard 5) := by
  intro taken half full leaving expected events
  let start : Job := .sum {}
  let one : Job := .sum { first := some 1 }
  let both : Job := .sum { first := some 1, second := some 2 }
  have hstart : AtWork (.standard 5) taken start := ⟨"sum", rfl, rfl⟩
  have hone : AtWork (.standard 5) half one := ⟨"sum", rfl, rfl⟩
  have hboth : AtWork (.standard 5) full both := ⟨"sum", rfl, rfl⟩
  have hreadOne : start.next.Does seed [.read "1"] one seed := .ask rfl
  have hreadTwo : one.next.Does seed [.read "2"] both seed := .ask rfl
  have htake : Act (.standard 5) .fresh [.read "sum"] taken := .take rfl "sum"
  have hfirst : Act (.standard 5) taken [.read "1"] half := .work hstart hreadOne
  have hsecond : Act (.standard 5) half [.read "2"] full := .work hone hreadTwo
  have hconclude : Act (.standard 5) full [.wrote "3"] .fresh := .conclude hboth rfl
  have hexit : Act (.standard 5) .fresh [.read "exit"] leaving := .take rfl "exit"
  have hleave : Halt (.standard 5) leaving [.saved []] (.ok ()) [] := .leave rfl rfl
  have hwhole : Completes (.standard 5) .fresh ["sum", "1", "2", "exit"] _ _ _ :=
    ⟨_, _, _, .cons htake (.cons hfirst (.cons hsecond (.cons hconclude (.cons hexit (.refl _))))),
      hleave.ends, rfl, rfl⟩
  obtain ⟨trace, hcomplete, hfollows⟩ :=
    run_opening (.standard 5) ["sum", "1", "2", "exit"] Snapshot.restore_nil
  obtain ⟨rfl, -, -⟩ := hcomplete.unique hwhole
  have hevents : events = _ := hfollows.events_eq
  have hsaves : saves [] [] events = expected := by
    rw [hevents]
    rfl
  refine ⟨hsaves, fun x hx => ?_⟩
  rw [← hsaves] at hx
  exact transits_of_mem_saves (.standard 5) [] ["sum", "1", "2", "exit"] _ _ x hx

end Session

end DurableCalc
