import DurableCalc.Command.Basic
import DurableCalc.Generator
import DurableCalc.Session.Event

/-!
# The growth of a command's progress

A step that does not end its command reads or writes at most one line and leads to a next progress,
which is `Step.Does`. `Job.Grows` lists what may become of a progress in such a step: an operand, a
count, a value or a topic is filled in, a cursor moves by one, or a topic is left. What grows from a
progress within its bounds is within its bounds.
-/

namespace DurableCalc

/-- What a step reads or writes, what it goes on with, and the generator's state after it. -/
inductive Step.Does (rng : Int64) : Step σ → List Event → σ → Int64 → Prop
  | ask {accept : String → Except InputError σ} {line : String} {next : σ}
      (haccept : accept line = .ok next) : Does rng (.ask accept) [.read line] next rng
  | tell {line : String} {next : σ} : Does rng (.tell line next) [.wrote line] next rng
  | draw {next : σ} :
      Does rng (.draw next) [.wrote (Text.decimal rng.toInt)] next (Generator.next rng)
  | save {next : σ} : Does rng (.save next) [] next rng

theorem exists_of_map_eq_ok {x : Except ε α} {f : α → β} {b : β} (h : x.map f = .ok b) :
    ∃ a, x = .ok a ∧ f a = b := by
  cases x with
  | error error => cases h
  | ok a => exact ⟨a, rfl, Except.ok.inj h⟩

/-- What is read from a line that is asked for may be made into another state at once. -/
theorem Step.map_ask_map {read : String → Except InputError α} {f : α → σ} {g : σ → τ} :
    (Step.ask fun line => (read line).map f).map g = .ask fun line => (read line).map (g ∘ f) := by
  simp only [Step.map]
  congr 1
  funext line
  cases read line <;> rfl

theorem Step.does_map {f : σ → τ} {step : Step σ} {rng rng' : Int64} {visible : List Event}
    {k : τ} (h : (step.map f).Does rng visible k rng') :
    ∃ next, k = f next ∧ step.Does rng visible next rng' := by
  cases step with
  | ask accept =>
    cases h with
    | ask haccept =>
      obtain ⟨next, hline, rfl⟩ := exists_of_map_eq_ok haccept
      exact ⟨next, rfl, .ask hline⟩
  | tell line next =>
    cases h
    exact ⟨next, rfl, .tell⟩
  | draw next =>
    cases h
    exact ⟨next, rfl, .draw⟩
  | save next =>
    cases h
    exact ⟨next, rfl, .save⟩
  | refuse error => cases h
  | reject error => cases h
  | conclude line => cases h
  | finished => cases h

theorem Snapshot.fault?_eq_none_iff {s : Snapshot} :
    s.fault? = none ↔ ∀ p, s.command = some p → p.fault? = none ∧ s.pendingInput ≠ none := by
  cases hcommand : s.command with
  | none => simp [fault?, hcommand]
  | some p => simp [fault?, hcommand]

theorem Snapshot.command_eq_none {s : Snapshot} (hfault : s.fault? = none)
    (hidle : s.pendingInput = none) : s.command = none := by
  cases hcommand : s.command with
  | none => rfl
  | some p => exact absurd hidle (fault?_eq_none_iff.1 hfault p hcommand).2

def HelpProgress.Overrun (guide : Guide) (p : HelpProgress) : Prop :=
  guide.intro.length < p.introCursor.toNat ∨ p.blockLength guide < p.topicCursor.toNat

namespace Job

def command : Job → Command
  | .sum _ => .sum
  | .median maxCount _ => .median maxCount
  | .randomSequence maxCount _ => .randomSequence maxCount
  | .help guide _ => .help guide

@[simp] theorem command_start (c : Command) (s : Snapshot) : (start c s).command = c := by
  cases c <;> rfl

@[simp] theorem kind_progress (job : Job) : job.progress.kind = job.command.kind := by
  cases job <;> rfl

theorem start_command {job : Job} {s : Snapshot} (h : s.command = some job.progress) :
    start job.command s = job := by
  cases job <;>
    simp [start, command, progress, Snapshot.sumProgress, Snapshot.medianProgress,
      Snapshot.randomProgress, Snapshot.helpProgress, h] at h ⊢

theorem progress_start {c : Command} {s : Snapshot} {p : Progress} (hcommand : s.command = some p)
    (hkind : p.kind = c.kind) : (start c s).progress = p := by
  cases c <;> cases p <;>
    simp [Progress.kind, Command.kind, start, progress, Snapshot.sumProgress,
      Snapshot.medianProgress, Snapshot.randomProgress, Snapshot.helpProgress, hcommand] at hkind ⊢

theorem start_of_command_none {c : Command} {s : Snapshot} (hcommand : s.command = none) :
    start c s = start c .fresh := by
  cases c <;>
    simp [start, Snapshot.sumProgress, Snapshot.medianProgress, Snapshot.randomProgress,
      Snapshot.helpProgress, hcommand, Snapshot.fresh]

/-- A job that is taken up from a snapshot within its bounds is within its own. -/
theorem fault?_start {c : Command} {s : Snapshot} (hfault : s.fault? = none)
    (hkind : ∀ p, s.command = some p → p.kind = c.kind) : (start c s).progress.fault? = none := by
  cases hcommand : s.command with
  | none =>
    rw [start_of_command_none hcommand]
    cases c <;> rfl
  | some p =>
    rw [progress_start hcommand (hkind p hcommand)]
    exact (Snapshot.fault?_eq_none_iff.1 hfault p hcommand).1

inductive Grows : Job → Int64 → List Event → Job → Int64 → Prop
  | first {p : SumProgress} {rng : Int64} {line : String} {value : Int64}
      (hfirst : p.first = none) (hread : readInteger line = .ok value) :
      Grows (.sum p) rng [.read line] (.sum { p with first := some value }) rng
  | second {p : SumProgress} {rng : Int64} {line : String} {value : Int64}
      (hfirst : p.first ≠ none) (hsecond : p.second = none)
      (hread : readInteger line = .ok value) :
      Grows (.sum p) rng [.read line] (.sum { p with second := some value }) rng
  | medianCount {maxCount : UInt32} {p : MedianProgress} {rng : Int64} {line : String}
      {count : UInt32} (hcount : p.count = none) (hread : readCount maxCount line = .ok count) :
      Grows (.median maxCount p) rng [.read line]
        (.median maxCount { p with count := some count }) rng
  | value {maxCount : UInt32} {p : MedianProgress} {rng : Int64} {line : String} {value : Int64}
      {count : UInt32} (hcount : p.count = some count)
      (hlt : p.nextIndex.toNat < count.toNat) (hread : readInteger line = .ok value) :
      Grows (.median maxCount p) rng [.read line] (.median maxCount (p.push value)) rng
  | randomCount {maxCount : UInt32} {p : RandomProgress} {rng : Int64} {line : String}
      {count : UInt32} (hcount : p.count = none) (hread : readCount maxCount line = .ok count) :
      Grows (.randomSequence maxCount p) rng [.read line]
        (.randomSequence maxCount { p with count := some count }) rng
  | draw {maxCount : UInt32} {p : RandomProgress} {rng : Int64} {count : UInt32}
      (hcount : p.count = some count) (hlt : p.nextIndex < count) :
      Grows (.randomSequence maxCount p) rng [.wrote (Text.decimal rng.toInt)]
        (.randomSequence maxCount { p with nextIndex := p.nextIndex + 1 }) (Generator.next rng)
  | intro {guide : Guide} {p : HelpProgress} {rng : Int64} {line : String}
      (hlt : p.introCursor.toNat < 3) (hline : guide.intro[p.introCursor.toNat]? = some line)
      (htopic : p.topicCursor.toNat ≤ p.blockLength guide) :
      Grows (.help guide p) rng [.wrote line]
        (.help guide { p with introCursor := p.introCursor + 1 }) rng
  | topic {guide : Guide} {p : HelpProgress} {rng : Int64} (topic : String)
      (hintro : p.introCursor.toNat = 3) (htopic : p.topic = none)
      (hcursor : p.topicCursor.toNat = 0) :
      Grows (.help guide p) rng [.read topic] (.help guide { p with topic := some topic }) rng
  | line {guide : Guide} {p : HelpProgress} {rng : Int64} {topic line : String}
      (hintro : p.introCursor.toNat = 3) (htopic : p.topic = some topic)
      (hstay : Text.trim topic ≠ Guide.leaveKeyword)
      (hline : (guide.block topic)[p.topicCursor.toNat]? = some line) :
      Grows (.help guide p) rng [.wrote line]
        (.help guide { p with topicCursor := p.topicCursor + 1 }) rng
  | leave {guide : Guide} {p : HelpProgress} {rng : Int64} {topic : String}
      (hintro : p.introCursor.toNat = 3) (htopic : p.topic = some topic)
      (hstay : Text.trim topic ≠ Guide.leaveKeyword)
      (hcursor : p.topicCursor.toNat = (guide.block topic).length) :
      Grows (.help guide p) rng [] (.help guide { p with topic := none, topicCursor := 0 }) rng

theorem Grows.command_eq {job job' : Job} {rng rng' : Int64} {visible : List Event}
    (h : job.Grows rng visible job' rng') : job'.command = job.command := by
  cases h <;> rfl

end Job

theorem MedianProgress.toNat_nextIndex_push {p : MedianProgress} {count : UInt32} (value : Int64)
    (h : p.nextIndex.toNat < count.toNat) :
    (p.push value).nextIndex.toNat = p.nextIndex.toNat + 1 := by
  have hcount := count.toNat_lt
  rw [push, UInt64.toNat_add]
  apply Nat.mod_eq_of_lt
  simp
  omega

theorem le_of_readCount {maxCount count : UInt32} {line : String}
    (h : readCount maxCount line = .ok count) : count ≤ maxCount := by
  unfold readCount at h
  split at h
  · cases h
  · rename_i value _
    split at h
    · rename_i hrange
      cases h
      have hlt := maxCount.toNat_lt
      have hsmall : value.toInt.toNat < 2 ^ 32 := by omega
      rw [UInt32.le_iff_toNat_le]
      show (UInt32.ofNat value.toInt.toNat).toNat ≤ maxCount.toNat
      rw [UInt32.toNat_ofNat_of_lt' hsmall]
      omega
    · cases h

namespace Job

variable {rng rng' : Int64} {visible : List Event}

theorem grows_of_sum {p q : SumProgress} (h : p.next.Does rng visible q rng') :
    Grows (.sum p) rng visible (.sum q) rng' := by
  unfold SumProgress.next at h
  split at h
  · rename_i hfirst
    cases h with
    | ask haccept =>
      obtain ⟨value, hline, rfl⟩ := exists_of_map_eq_ok haccept
      exact .first hfirst hline
  · rename_i first hfirst hsecond
    cases h with
    | ask haccept =>
      obtain ⟨value, hline, rfl⟩ := exists_of_map_eq_ok haccept
      exact .second (by simp [hfirst]) hsecond hline
  · dsimp only at h
    split at h <;> cases h

theorem grows_of_median {maxCount : UInt32} {p q : MedianProgress}
    (h : (p.next maxCount).Does rng visible q rng') :
    Grows (.median maxCount p) rng visible (.median maxCount q) rng' := by
  unfold MedianProgress.next at h
  split at h
  · rename_i hcount
    cases h with
    | ask haccept =>
      obtain ⟨count, hline, rfl⟩ := exists_of_map_eq_ok haccept
      exact .medianCount hcount hline
  · rename_i count hcount
    split at h
    · rename_i hlt
      cases h with
      | ask haccept =>
        obtain ⟨value, hline, rfl⟩ := exists_of_map_eq_ok haccept
        exact .value hcount hlt hline
    · cases h

theorem grows_of_randomSequence {maxCount : UInt32} {p q : RandomProgress}
    (h : (p.next maxCount).Does rng visible q rng') :
    Grows (.randomSequence maxCount p) rng visible (.randomSequence maxCount q) rng' := by
  unfold RandomProgress.next at h
  split at h
  · rename_i hcount
    cases h with
    | ask haccept =>
      obtain ⟨count, hline, rfl⟩ := exists_of_map_eq_ok haccept
      exact .randomCount hcount hline
  · rename_i count hcount
    split at h
    · rename_i hlt
      cases h
      exact .draw hcount hlt
    · cases h

theorem grows_of_help {guide : Guide} {p q : HelpProgress}
    (h : (p.next guide).Does rng visible q rng') :
    Grows (.help guide p) rng visible (.help guide q) rng' := by
  unfold HelpProgress.next at h
  split at h
  · cases h
  rename_i hcursors
  obtain ⟨hintro, htopic⟩ : p.introCursor.toNat ≤ 3 ∧
      p.topicCursor.toNat ≤ p.blockLength guide := by
    simpa using hcursors
  split at h
  · rename_i hline
    have hlt := (List.getElem?_eq_some_iff.1 hline).1
    cases h
    exact .intro hlt hline htopic
  rename_i hline
  have hintro : p.introCursor.toNat = 3 := by
    have hle := List.getElem?_eq_none_iff.1 hline
    rw [Guide.length_intro] at hle
    omega
  split at h
  · rename_i hnone
    have hcursor : p.topicCursor.toNat = 0 := by
      simpa [HelpProgress.blockLength, hnone] using htopic
    cases h with
    | @ask _ line _ haccept =>
      cases haccept
      exact .topic line hintro hnone hcursor
  rename_i topic hsome
  have hle : p.topicCursor.toNat ≤ (guide.block topic).length := by
    simpa [HelpProgress.blockLength, hsome] using htopic
  split at h
  · cases h
  rename_i hstay
  split at h
  · rename_i hline
    cases h
    exact .line hintro hsome hstay hline
  · rename_i hline
    have hge := List.getElem?_eq_none_iff.1 hline
    cases h
    exact .leave hintro hsome hstay (by omega)

theorem grows_of_does {job job' : Job} (h : job.next.Does rng visible job' rng') :
    job.Grows rng visible job' rng' := by
  cases job with
  | sum p =>
    obtain ⟨q, rfl, hdoes⟩ := Step.does_map h
    exact grows_of_sum hdoes
  | median maxCount p =>
    obtain ⟨q, rfl, hdoes⟩ := Step.does_map h
    exact grows_of_median hdoes
  | randomSequence maxCount p =>
    obtain ⟨q, rfl, hdoes⟩ := Step.does_map h
    exact grows_of_randomSequence hdoes
  | help guide p =>
    obtain ⟨q, rfl, hdoes⟩ := Step.does_map h
    exact grows_of_help hdoes

theorem Grows.fault? {job job' : Job} (h : job.Grows rng visible job' rng')
    (hfault : job.progress.fault? = none) : job'.progress.fault? = none := by
  cases h with
  | first hfirst hread => rfl
  | second hfirst hsecond hread => rfl
  | @medianCount _ p _ _ count hcount hread =>
    obtain ⟨hindex, hvalues⟩ : p.nextIndex.toNat = p.values.length ∧ p.values = [] := by
      simpa [progress, Progress.fault?, hcount] using hfault
    simp [progress, Progress.fault?, hindex, hvalues]
  | @value _ p _ _ value count hcount hlt hread =>
    obtain ⟨hindex, hvalues⟩ : p.nextIndex.toNat = p.values.length ∧
        p.values.length ≤ count.toNat := by
      simpa [progress, Progress.fault?, hcount] using hfault
    have hnext := MedianProgress.toNat_nextIndex_push value hlt
    have hlength : (p.push value).values.length = p.values.length + 1 := List.length_append
    have hcount' : (p.push value).count = some count := hcount
    simp [progress, Progress.fault?, hcount', hnext, hlength]
    omega
  | @randomCount _ p _ _ count hcount hread =>
    have hindex : p.nextIndex = 0 := by
      simpa [progress, Progress.fault?, hcount] using hfault
    simp [progress, Progress.fault?, hindex]
  | @draw _ p _ count hcount hlt =>
    have hle : ¬ count < p.nextIndex + 1 := by
      rw [UInt32.lt_iff_toNat_lt, RandomProgress.toNat_add_one hlt]
      rw [UInt32.lt_iff_toNat_lt] at hlt
      omega
    simp [progress, Progress.fault?, hcount, hle]
  | intro hlt hline htopic => simpa [progress, Progress.fault?] using hfault
  | topic topic hintro htopic hcursor => simp [progress, Progress.fault?]
  | line hintro htopic hstay hline => simp [progress, Progress.fault?, htopic]
  | leave hintro htopic hstay hcursor => simp [progress, Progress.fault?]

theorem next_help_ask {guide : Guide} {p : HelpProgress} (hintro : p.introCursor.toNat = 3)
    (htopic : p.topic = none) (hcursor : p.topicCursor = 0) :
    (Job.help guide p).next = .ask fun line => .ok (.help guide { p with topic := some line }) := by
  simp [Job.next, HelpProgress.next, hintro, htopic, hcursor, Step.map, Except.map]

section

variable {guide : Guide} {p : HelpProgress} {topic : String}

theorem next_help_line (hintro : p.introCursor.toNat = 3) (htopic : p.topic = some topic)
    (hstay : Text.trim topic ≠ Guide.leaveKeyword)
    (hlt : p.topicCursor.toNat < (guide.block topic).length) :
    (Job.help guide p).next = .tell (guide.block topic)[p.topicCursor.toNat]
      (.help guide { p with topicCursor := p.topicCursor + 1 }) := by
  have hwithin : ¬ (guide.block topic).length < p.topicCursor.toNat := by omega
  simp [Job.next, HelpProgress.next, HelpProgress.blockLength, hintro, htopic, hstay,
    hwithin, hlt, Step.map]

theorem next_help_save (hintro : p.introCursor.toNat = 3) (htopic : p.topic = some topic)
    (hstay : Text.trim topic ≠ Guide.leaveKeyword)
    (hcursor : p.topicCursor.toNat = (guide.block topic).length) :
    (Job.help guide p).next = .save (.help guide { p with topic := none, topicCursor := 0 }) := by
  simp [Job.next, HelpProgress.next, HelpProgress.blockLength, hintro, htopic, hstay,
    hcursor, Step.map]

theorem next_help_finished (hintro : p.introCursor.toNat = 3) (htopic : p.topic = some topic)
    (hleave : Text.trim topic = Guide.leaveKeyword)
    (hcursor : p.topicCursor.toNat ≤ (guide.block topic).length) :
    (Job.help guide p).next = .finished := by
  have hwithin : ¬ (guide.block topic).length < p.topicCursor.toNat := by omega
  simp [Job.next, HelpProgress.next, HelpProgress.blockLength, hintro, htopic, hleave,
    hwithin, Step.map]

end

theorem exists_next_eq_refuse_iff {job : Job} :
    (∃ error, job.next = .refuse error) ↔ ∃ guide p, job = .help guide p ∧ p.Overrun guide := by
  constructor
  · rintro ⟨error, h⟩
    cases job with
    | sum p =>
      simp only [Job.next, SumProgress.next] at h
      split at h <;> try split at h
      all_goals simp [Step.map] at h
    | median maxCount p =>
      simp only [Job.next, MedianProgress.next] at h
      split at h <;> try split at h
      all_goals simp [Step.map] at h
    | randomSequence maxCount p =>
      simp only [Job.next, RandomProgress.next] at h
      split at h <;> try split at h
      all_goals simp [Step.map] at h
    | help guide p =>
      by_cases hover : p.Overrun guide
      · exact ⟨guide, p, rfl, hover⟩
      · rw [HelpProgress.Overrun] at hover
        simp only [Job.next, HelpProgress.next, if_neg hover] at h
        repeat' split at h
        all_goals simp [Step.map] at h
  · rintro ⟨guide, p, rfl, hover⟩
    rw [HelpProgress.Overrun] at hover
    simp only [Job.next, HelpProgress.next, if_pos hover, Step.map]
    exact ⟨_, rfl⟩

/-- The only job that stops on the numbers that it has is `sum` with a sum out of range. -/
theorem next_eq_reject_iff {job : Job} {error : InputError} :
    job.next = .reject error ↔
      ∃ first second, job = .sum { first := some first, second := some second } ∧
        SumProgress.fits (first.toInt + second.toInt) = false ∧ error = .overflow first second := by
  constructor
  · intro h
    cases job with
    | sum p =>
      simp only [Job.next, SumProgress.next] at h
      split at h
      · cases h
      · cases h
      · rename_i first second hfirst hsecond
        by_cases hfits : SumProgress.fits (first.toInt + second.toInt) = true
        · rw [if_pos hfits] at h
          cases h
        · rw [if_neg hfits] at h
          cases h
          cases p
          cases hfirst
          cases hsecond
          exact ⟨first, second, rfl, by simpa using hfits, rfl⟩
    | median maxCount p =>
      simp only [Job.next, MedianProgress.next] at h
      split at h <;> try split at h
      all_goals cases h
    | randomSequence maxCount p =>
      simp only [Job.next, RandomProgress.next] at h
      split at h <;> try split at h
      all_goals cases h
    | help guide p =>
      simp only [Job.next, HelpProgress.next] at h
      repeat' split at h
      all_goals cases h
  · rintro ⟨first, second, rfl, hfits, rfl⟩
    simp [Job.next, SumProgress.next, hfits, Step.map]

/-- A job that has grown is not refused, whatever it grew from. -/
theorem Grows.next_ne_refuse {job job' : Job} (h : job.Grows rng visible job' rng')
    (error : SnapshotError) : job'.next ≠ .refuse error := by
  intro hrefuse
  obtain ⟨guide, q, rfl, hover⟩ := exists_next_eq_refuse_iff.1 ⟨error, hrefuse⟩
  rw [HelpProgress.Overrun, Guide.length_intro] at hover
  cases h with
  | @intro _ p _ _ hlt hline htopic =>
    have hnext := HelpProgress.toNat_add_one hlt
    simp only [HelpProgress.blockLength, hnext] at hover htopic
    omega
  | @topic _ p _ topic hintro htopic hcursor =>
    simp only [hintro, hcursor] at hover
    omega
  | @line _ p _ topic _ hintro htopic hstay hline =>
    have hlt := (List.getElem?_eq_some_iff.1 hline).1
    have hblock := guide.length_block_le topic
    have hnext : (p.topicCursor + 1).toNat = p.topicCursor.toNat + 1 :=
      HelpProgress.toNat_add_one (by omega)
    simp only [HelpProgress.blockLength, htopic, hintro, hnext] at hover
    omega
  | @leave _ p _ topic hintro htopic hstay hcursor =>
    simp [HelpProgress.blockLength, hintro] at hover

end Job

end DurableCalc
