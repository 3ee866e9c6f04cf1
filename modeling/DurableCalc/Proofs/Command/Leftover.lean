import DurableCalc.Proofs.Command.Growth
import Mathlib.Data.List.Forall2
import Mathlib.Data.List.Iterate

/-!
# What is left of a command

A command that is taken up from any progress reads only what is missing and writes only what is
left. `Job.Finishes` says so for each command, in the lines that it still reads and writes, without
looking at its steps; `Job.Leads` is what its steps come to, one after the other.
-/

namespace DurableCalc

open Event

theorem Step.does_ask {read : String → Except InputError α} {line : String} {value : α}
    {f : α → σ} {rng : Int64} (hread : read line = .ok value) :
    (Step.ask fun line => (read line).map f).Does rng [.read line] (f value) rng := by
  apply Step.Does.ask
  rw [hread]
  rfl

inductive Supplies (read : String → Except InputError α) : Option α → List String → α → Prop
  | held (value : α) : Supplies read (some value) [] value
  | heard {line : String} {value : α} (hread : read line = .ok value) :
      Supplies read none [line] value

def Guide.answers (g : Guide) (topics : List String) : List Event :=
  topics.flatMap fun topic => .read topic :: (g.block topic).map .wrote

/-- What is left of a help mode behind its introduction: of the block of its topic, if it has one,
the lines from a cursor on, and then a whole block for every topic until one that leaves. -/
inductive Guide.Closes (g : Guide) : Option String → Nat → List Event → Prop
  | left {topic : String} {cursor : Nat} (hleave : Text.trim topic = leaveKeyword) :
      Closes g (some topic) cursor []
  | block {topic last : String} {cursor : Nat} {topics : List String}
      (hstay : ∀ t ∈ topic :: topics, Text.trim t ≠ leaveKeyword)
      (hleave : Text.trim last = leaveKeyword) :
      Closes g (some topic) cursor
        (((g.block topic).drop cursor).map .wrote ++ g.answers topics ++ [.read last])
  | ask {last : String} {cursor : Nat} {topics : List String}
      (hstay : ∀ t ∈ topics, Text.trim t ≠ leaveKeyword)
      (hleave : Text.trim last = leaveKeyword) :
      Closes g none cursor (g.answers topics ++ [.read last])

namespace Job

/-- How a job can finish at a state of the generator: the lines that it reads and writes on the way,
in order, and the state of the generator in the end. -/
inductive Finishes (rng : Int64) : Job → List Event → Int64 → Prop
  | sum {p : SumProgress} {lines lines' : List String} {first second : Int64}
      (hfirst : Supplies readInteger p.first lines first)
      (hsecond : Supplies readInteger p.second lines' second)
      (hfits : SumProgress.fits (first.toInt + second.toInt) = true) :
      Finishes rng (.sum p)
        ((lines ++ lines').map .read ++ [.wrote (Text.decimal (first.toInt + second.toInt))]) rng
  | median {maxCount count : UInt32} {p : MedianProgress} {lines lines' : List String}
      {values : List Int64} (hcount : Supplies (readCount maxCount) p.count lines count)
      (hvalues : List.Forall₂ (fun line value => readInteger line = .ok value) lines' values)
      (hall : p.values.length + lines'.length = count.toNat) :
      Finishes rng (.median maxCount p)
        ((lines ++ lines').map .read ++ [.wrote (Median.of (p.values ++ values)).text]) rng
  | randomSequence {maxCount count : UInt32} {p : RandomProgress} {lines : List String} {n : Nat}
      (hcount : Supplies (readCount maxCount) p.count lines count)
      (hall : p.nextIndex.toNat + n = count.toNat) :
      Finishes rng (.randomSequence maxCount p)
        (lines.map .read ++
          (List.iterate Generator.next rng n).map fun x => .wrote (Text.decimal x.toInt))
        (Generator.next^[n] rng)
  | help {guide : Guide} {p : HelpProgress} {trace : List Event}
      (hintro : p.introCursor.toNat ≤ guide.intro.length)
      (htopic : p.topicCursor.toNat ≤ p.blockLength guide)
      (hcloses : guide.Closes p.topic p.topicCursor.toNat trace) :
      Finishes rng (.help guide p) ((guide.intro.drop p.introCursor.toNat).map .wrote ++ trace) rng

inductive Leads : Job → Int64 → List Event → Job → Int64 → Prop
  | refl (job : Job) (rng : Int64) : Leads job rng [] job rng
  | step {job job₁ job₂ : Job} {rng rng₁ rng₂ : Int64} {visible trace : List Event}
      (hdoes : job.next.Does rng visible job₁ rng₁) (hleads : Leads job₁ rng₁ trace job₂ rng₂) :
      Leads job rng (visible ++ trace) job₂ rng₂

variable {job job₁ job₂ : Job} {rng rng₁ rng₂ : Int64} {visible trace trace' : List Event}

namespace Leads

theorem trans (h : Leads job rng trace job₁ rng₁) (h' : Leads job₁ rng₁ trace' job₂ rng₂) :
    Leads job rng (trace ++ trace') job₂ rng₂ := by
  induction h with
  | refl job rng => exact h'
  | step hdoes _ ih => simpa using Leads.step hdoes (ih h')

theorem single (hdoes : job.next.Does rng visible job₁ rng₁) :
    Leads job rng visible job₁ rng₁ := by
  simpa using Leads.step hdoes (.refl job₁ rng₁)

/-- A value that a job holds or asks for is held by what it becomes. -/
theorem of_supplies {read : String → Except InputError α} {held : Option α} {lines : List String}
    {value : α} (fill : α → Job) (h : Supplies read held lines value)
    (hheld : ∀ v, held = some v → fill v = job)
    (hask : held = none → job.next = .ask fun line => (read line).map fill) :
    Leads job rng (lines.map .read) (fill value) rng := by
  cases h with
  | held value =>
    rw [hheld value rfl]
    exact .refl job rng
  | @heard line _ hread =>
    have hdoes : job.next.Does rng [.read line] (fill value) rng := hask rfl ▸ Step.does_ask hread
    exact .single hdoes

end Leads

inductive EndsWith (job : Job) : List Event → Prop
  | conclude {last : String} (hnext : job.next = .conclude last) : EndsWith job [.wrote last]
  | finished (hnext : job.next = .finished) : EndsWith job []

theorem next_sum_conclude {first second : Int64}
    (hfits : SumProgress.fits (first.toInt + second.toInt) = true) :
    (Job.sum { first := some first, second := some second }).next =
      .conclude (Text.decimal (first.toInt + second.toInt)) := by
  simp [Job.next, SumProgress.next, hfits, Step.map]

theorem leads_operands {p : SumProgress} {lines lines' : List String} {first second : Int64}
    (hfirst : Supplies readInteger p.first lines first)
    (hsecond : Supplies readInteger p.second lines' second) :
    Leads (.sum p) rng ((lines ++ lines').map .read)
      (.sum { first := some first, second := some second }) rng := by
  have hleads₁ : Leads (.sum p) rng (lines.map .read)
      (.sum { p with first := some first }) rng := by
    refine .of_supplies (fun v => .sum { p with first := some v }) hfirst
      (fun v hv => by rw [← hv]) fun hnone => ?_
    simp only [Job.next, SumProgress.next, hnone]
    exact Step.map_ask_map
  have hleads₂ : Leads (.sum { p with first := some first }) rng (lines'.map .read)
      (.sum { first := some first, second := some second }) rng := by
    refine .of_supplies (fun v => .sum { first := some first, second := some v }) hsecond
      (fun v hv => by rw [← hv]) fun hnone => ?_
    simp only [Job.next, SumProgress.next, hnone]
    exact Step.map_ask_map
  simpa using hleads₁.trans hleads₂

theorem leads_values (maxCount : UInt32) (rng : Int64) {count : UInt32} {p : MedianProgress}
    {lines : List String} {values : List Int64} (hcount : p.count = some count)
    (hvalues : List.Forall₂ (fun line value => readInteger line = .ok value) lines values)
    (hall : p.nextIndex.toNat + lines.length = count.toNat) :
    ∃ q : MedianProgress,
      Leads (.median maxCount p) rng (lines.map .read) (.median maxCount q) rng ∧
      q.count = some count ∧ q.nextIndex.toNat = count.toNat ∧ q.values = p.values ++ values := by
  induction hvalues generalizing p with
  | nil => exact ⟨p, .refl _ _, hcount, hall, (List.append_nil _).symm⟩
  | @cons line value lines values hread _ ih =>
    rw [List.length_cons] at hall
    have hlt : p.nextIndex.toNat < count.toNat := by omega
    have hindex := MedianProgress.toNat_nextIndex_push value hlt
    have hdoes : (Job.median maxCount p).next.Does rng [.read line]
        (.median maxCount (p.push value)) rng := by
      simp only [Job.next, MedianProgress.next, hcount, hlt, if_true]
      exact Step.map_ask_map ▸ Step.does_ask hread
    obtain ⟨q, hleads, hq⟩ := ih (p := p.push value) hcount (by omega)
    exact ⟨q, .step hdoes hleads, by simpa [MedianProgress.push] using hq⟩

theorem leads_draws (maxCount : UInt32) (rng : Int64) (n : Nat) {count : UInt32}
    {p : RandomProgress} (hcount : p.count = some count)
    (hall : p.nextIndex.toNat + n = count.toNat) :
    Leads (.randomSequence maxCount p) rng
      ((List.iterate Generator.next rng n).map fun x => .wrote (Text.decimal x.toInt))
      (.randomSequence maxCount { p with nextIndex := count }) (Generator.next^[n] rng) := by
  induction n generalizing p rng with
  | zero =>
    have hindex : p.nextIndex = count := UInt32.toNat_inj.1 hall
    rw [← hindex]
    exact .refl _ _
  | succ n ih =>
    have hlt : p.nextIndex < count := by
      rw [UInt32.lt_iff_toNat_lt]
      omega
    have hindex := RandomProgress.toNat_add_one hlt
    have hdoes : (Job.randomSequence maxCount p).next.Does rng
        [.wrote (Text.decimal rng.toInt)]
        (.randomSequence maxCount { p with nextIndex := p.nextIndex + 1 })
        (Generator.next rng) := by
      simp only [Job.next, RandomProgress.next, hcount, hlt, if_true]
      exact .draw
    exact .step hdoes (ih (Generator.next rng) (p := { p with nextIndex := p.nextIndex + 1 })
      hcount (by simp only [hindex]; omega))

section

variable {guide : Guide} {p : HelpProgress} {topic : String} {topics : List String}

theorem next_help_intro (hlt : p.introCursor.toNat < guide.intro.length)
    (htopic : p.topicCursor.toNat ≤ p.blockLength guide) :
    (Job.help guide p).next = .tell guide.intro[p.introCursor.toNat]
      (.help guide { p with introCursor := p.introCursor + 1 }) := by
  have hwithin : ¬ (guide.intro.length < p.introCursor.toNat ∨
      p.blockLength guide < p.topicCursor.toNat) := by omega
  simp only [Job.next, HelpProgress.next, if_neg hwithin, List.getElem?_eq_getElem hlt, Step.map]

theorem leads_intro (n : Nat) (hleft : p.introCursor.toNat + n = guide.intro.length)
    (htopic : p.topicCursor.toNat ≤ p.blockLength guide) :
    Leads (.help guide p) rng ((guide.intro.drop p.introCursor.toNat).map .wrote)
      (.help guide { p with introCursor := 3 }) rng := by
  induction n generalizing p with
  | zero =>
    have hintro : p.introCursor = 3 := UInt64.toNat_inj.1 hleft
    rw [List.drop_of_length_le (by omega), ← hintro]
    exact .refl _ _
  | succ n ih =>
    have hlt : p.introCursor.toNat < guide.intro.length := by omega
    have hcursor := HelpProgress.toNat_add_one hlt
    have hdoes : (Job.help guide p).next.Does rng [.wrote guide.intro[p.introCursor.toNat]]
        (.help guide { p with introCursor := p.introCursor + 1 }) rng :=
      next_help_intro hlt htopic ▸ .tell
    have hlater := ih (p := { p with introCursor := p.introCursor + 1 })
      (by simp only [hcursor]; omega) htopic
    rw [hcursor] at hlater
    rw [List.drop_eq_getElem_cons hlt]
    exact .step hdoes hlater

/-- What is left of the block of a topic is written, and the topic is left. -/
theorem leads_block (n : Nat) (hintro : p.introCursor.toNat = 3) (htopic : p.topic = some topic)
    (hstay : Text.trim topic ≠ Guide.leaveKeyword)
    (hleft : p.topicCursor.toNat + n = (guide.block topic).length) :
    Leads (.help guide p) rng (((guide.block topic).drop p.topicCursor.toNat).map .wrote)
      (.help guide { p with topic := none, topicCursor := 0 }) rng := by
  induction n generalizing p with
  | zero =>
    rw [List.drop_of_length_le (by omega)]
    exact .single (next_help_save hintro htopic hstay hleft ▸ .save)
  | succ n ih =>
    have hlt : p.topicCursor.toNat < (guide.block topic).length := by omega
    have hblock := guide.length_block_le topic
    have hcursor : (p.topicCursor + 1).toNat = p.topicCursor.toNat + 1 :=
      HelpProgress.toNat_add_one (by omega)
    have hdoes : (Job.help guide p).next.Does rng
        [.wrote (guide.block topic)[p.topicCursor.toNat]]
        (.help guide { p with topicCursor := p.topicCursor + 1 }) rng :=
      next_help_line hintro htopic hstay hlt ▸ .tell
    have hlater := ih (p := { p with topicCursor := p.topicCursor + 1 }) hintro htopic
      (by simp only [hcursor]; omega)
    rw [hcursor] at hlater
    rw [List.drop_eq_getElem_cons hlt]
    exact .step hdoes hlater

theorem leads_topic (hintro : p.introCursor.toNat = 3) (htopic : p.topic = none)
    (hcursor : p.topicCursor = 0) (topic : String) :
    Leads (.help guide p) rng [.read topic] (.help guide { p with topic := some topic }) rng :=
  .single (next_help_ask hintro htopic hcursor ▸ .ask rfl)

theorem leads_answers (hintro : p.introCursor.toNat = 3) (htopic : p.topic = none)
    (hcursor : p.topicCursor = 0) (hstay : ∀ t ∈ topics, Text.trim t ≠ Guide.leaveKeyword) :
    Leads (.help guide p) rng (guide.answers topics) (.help guide p) rng := by
  induction topics with
  | nil => exact .refl _ _
  | cons topic topics ih =>
    rw [List.forall_mem_cons] at hstay
    have hzero : p.topicCursor.toNat = 0 := by simp [hcursor]
    have hback : { p with topic := none, topicCursor := 0 } = p := by
      rw [← htopic, ← hcursor]
    have hblock : Leads (.help guide { p with topic := some topic }) rng _ (.help guide _) rng :=
      leads_block (guide.block topic).length hintro rfl hstay.1 (by simp only [hzero, Nat.zero_add])
    simp only [hzero, List.drop_zero, hback] at hblock
    have hanswer := (leads_topic hintro htopic hcursor topic).trans (hblock.trans (ih hstay.2))
    simpa [Guide.answers] using hanswer

theorem leads_closes (rng : Int64) {trace : List Event} (hintro : p.introCursor.toNat = 3)
    (htopic : p.topicCursor.toNat ≤ p.blockLength guide)
    (h : guide.Closes p.topic p.topicCursor.toNat trace) :
    ∃ job', Leads (.help guide p) rng trace job' rng ∧ job'.next = .finished := by
  have hask {q : HelpProgress} {topics : List String} {last : String}
      (hintro : q.introCursor.toNat = 3) (htopic : q.topic = none) (hcursor : q.topicCursor = 0)
      (hstay : ∀ t ∈ topics, Text.trim t ≠ Guide.leaveKeyword)
      (hleave : Text.trim last = Guide.leaveKeyword) :
      ∃ job', Leads (.help guide q) rng (guide.answers topics ++ [.read last]) job' rng ∧
        job'.next = .finished := by
    refine ⟨_, (leads_answers hintro htopic hcursor hstay).trans
      (leads_topic hintro htopic hcursor last), ?_⟩
    exact next_help_finished hintro rfl hleave (by simp [hcursor])
  generalize hheld : p.topic = held at h
  cases h with
  | @left topic _ hleave =>
    rw [HelpProgress.blockLength, hheld] at htopic
    exact ⟨_, .refl _ _, next_help_finished hintro hheld hleave htopic⟩
  | @block topic last _ topics hstay hleave =>
    have hle : p.topicCursor.toNat ≤ (guide.block topic).length := by
      simpa only [HelpProgress.blockLength, hheld] using htopic
    rw [List.forall_mem_cons] at hstay
    have hblock : Leads (.help guide p) rng _ (.help guide _) rng :=
      leads_block ((guide.block topic).length - p.topicCursor.toNat) hintro hheld hstay.1
        (by omega)
    obtain ⟨job', hleads, hnext⟩ := hask (q := { p with topic := none, topicCursor := 0 }) hintro
      rfl rfl hstay.2 hleave
    refine ⟨job', ?_, hnext⟩
    rw [List.append_assoc]
    exact hblock.trans hleads
  | ask hstay hleave =>
    rw [HelpProgress.blockLength, hheld] at htopic
    exact hask hintro hheld (UInt64.toNat_inj.1 (by simpa using htopic)) hstay hleave

end

theorem Finishes.leads (h : Finishes rng job trace rng₁) (hfault : job.progress.fault? = none) :
    ∃ job' before tail, Leads job rng before job' rng₁ ∧ EndsWith job' tail ∧
      trace = before ++ tail := by
  cases h with
  | sum hfirst hsecond hfits =>
    exact ⟨_, _, _, leads_operands hfirst hsecond, .conclude (next_sum_conclude hfits), rfl⟩
  | @median maxCount count p lines lines' values hcount hvalues hall =>
    have hindex : p.nextIndex.toNat = p.values.length := by
      simp only [progress, Progress.fault?] at hfault
      by_contra hne
      simp [hne] at hfault
    have hleads₁ : Leads (.median maxCount p) rng (lines.map .read)
        (.median maxCount { p with count := some count }) rng := by
      refine .of_supplies (fun v => .median maxCount { p with count := some v }) hcount
        (fun v hv => by rw [← hv]) fun hnone => ?_
      simp only [Job.next, MedianProgress.next, hnone]
      exact Step.map_ask_map
    obtain ⟨q, hleads₂, hcount', hindex', hvalues'⟩ := leads_values maxCount rng
      (p := { p with count := some count }) rfl hvalues (by simp only [hindex, hall])
    have hnext : (Job.median maxCount q).next = .conclude (Median.of q.values).text := by
      simp [Job.next, MedianProgress.next, hcount', hindex', Step.map]
    exact ⟨_, _, _, hleads₁.trans hleads₂, .conclude hnext, by simp [hvalues']⟩
  | @randomSequence maxCount count p lines n hcount hall =>
    have hleads₁ : Leads (.randomSequence maxCount p) rng (lines.map .read)
        (.randomSequence maxCount { p with count := some count }) rng := by
      refine .of_supplies (fun v => .randomSequence maxCount { p with count := some v })
        hcount (fun v hv => by rw [← hv]) fun hnone => ?_
      simp only [Job.next, RandomProgress.next, hnone]
      exact Step.map_ask_map
    have hleads₂ := leads_draws maxCount rng n (p := { p with count := some count }) rfl hall
    refine ⟨_, _, [], hleads₁.trans hleads₂, .finished ?_, (List.append_nil _).symm⟩
    simp [Job.next, RandomProgress.next, Step.map]
  | @help guide p trace hintro htopic hcloses =>
    have hleads₁ : Leads (.help guide p) rng _ (.help guide { p with introCursor := 3 }) rng :=
      leads_intro (guide.intro.length - p.introCursor.toNat) (by omega) htopic
    obtain ⟨job', hleads₂, hnext⟩ := leads_closes rng (p := { p with introCursor := 3 })
      rfl htopic hcloses
    exact ⟨job', _, [], hleads₁.trans hleads₂, .finished hnext, (List.append_nil _).symm⟩

end Job

end DurableCalc
