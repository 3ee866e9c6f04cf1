import DurableCalc.Proofs.Plain.Refinement

/-!
# The spelling of lines

The blanks around a line never matter. Where a line calls a command, the case of its ASCII letters
and the choice among the command's names do not matter either, nor where it is a topic of `help`,
except that only `end` in lower case leaves the topics. `Step.Alike` relates steps that differ in
the spelling of lines alone; jobs that differ in the spelling of a topic alone take such steps.
-/

namespace DurableCalc

def Kind.canonical (name : String) : String :=
  if name = "add" then "sum" else if name = "rand" then "random-sequence" else name

/-- Lines that have the same name in them, apart from blanks, letter case and aliases. -/
def SameName (line line' : String) : Prop :=
  Kind.canonical (Text.fold (Text.trim line)) = Kind.canonical (Text.fold (Text.trim line'))

/-- What a session reads a line as. -/
inductive Role
  | command
  | topic
  | number
  deriving DecidableEq, Repr

def Role.Spells : Role → String → String → Prop
  | .command, line, line' => SameName line line'
  | .topic, line, line' =>
    SameName line line' ∧
      (Text.trim line = Guide.leaveKeyword ↔ Text.trim line' = Guide.leaveKeyword)
  | .number, line, line' => Text.trim line = Text.trim line'

/-- Lines that call the same command of a standard registry, or none, or that both ask to leave. -/
structure SameCall (maxCount : UInt32) (line line' : String) : Prop where
  exit_iff : Text.fold (Text.trim line) = Session.exitKeyword ↔
    Text.fold (Text.trim line') = Session.exitKeyword
  lookup_eq : (Registry.standard maxCount).lookup (Text.trim line) =
    (Registry.standard maxCount).lookup (Text.trim line')

structure SameTopic (topic topic' : String) : Prop where
  leave_iff : Text.trim topic = Guide.leaveKeyword ↔ Text.trim topic' = Guide.leaveKeyword
  block_eq : Guide.standard.block topic = Guide.standard.block topic'

namespace Kind

theorem called_canonical (name : String) : called (canonical name) = called name := by
  unfold canonical
  split
  · rename_i hadd
    subst hadd
    decide
  split
  · rename_i hrand
    subst hrand
    decide
  · rfl

theorem block_canonical (name : String) : Plain.block (canonical name) = Plain.block name := by
  unfold canonical
  split
  · rename_i hadd
    subst hadd
    decide
  split
  · rename_i hrand
    subst hrand
    decide
  · rfl

theorem canonical_eq_exit_iff {name : String} :
    canonical name = Session.exitKeyword ↔ name = Session.exitKeyword := by
  unfold canonical
  split
  · rename_i hadd
    subst hadd
    decide
  split
  · rename_i hrand
    subst hrand
    decide
  · rfl

end Kind

namespace SameName

variable {line line' : String}

theorem of_trim_eq (h : Text.trim line = Text.trim line') : SameName line line' := by
  rw [SameName, h]

theorem sameCall (maxCount : UInt32) (h : SameName line line') : SameCall maxCount line line' where
  exit_iff := by rw [← Kind.canonical_eq_exit_iff, h, Kind.canonical_eq_exit_iff]
  lookup_eq := by
    rw [Registry.lookup_standard, Registry.lookup_standard, Text.trim_trim, Text.trim_trim,
      ← Kind.called_canonical, h, Kind.called_canonical]

theorem block_eq (h : SameName line line') :
    Guide.standard.block line = Guide.standard.block line' := by
  rw [Plain.block_standard, Plain.block_standard, ← Kind.block_canonical, h, Kind.block_canonical]

end SameName

theorem Role.Spells.of_trim_eq {line line' : String} (h : Text.trim line = Text.trim line')
    (role : Role) : role.Spells line line' := by
  cases role with
  | command => exact SameName.of_trim_eq h
  | topic => exact ⟨SameName.of_trim_eq h, by rw [h]⟩
  | number => exact h

inductive SameOutcome (R : α → β → Prop) : Except ε α → Except ε β → Prop
  | error (error : ε) : SameOutcome R (.error error) (.error error)
  | ok {a : α} {b : β} (h : R a b) : SameOutcome R (.ok a) (.ok b)

inductive Step.Alike (Spells : String → String → Prop) (R : σ → σ → Prop) : Step σ → Step σ → Prop
  | refuse (error : SnapshotError) : Alike Spells R (.refuse error) (.refuse error)
  | reject (error : InputError) : Alike Spells R (.reject error) (.reject error)
  | ask {accept accept' : String → Except InputError σ}
      (h : ∀ line line', Spells line line' → SameOutcome R (accept line) (accept' line')) :
      Alike Spells R (.ask accept) (.ask accept')
  | tell (line : String) {next next' : σ} (h : R next next') :
      Alike Spells R (.tell line next) (.tell line next')
  | draw {next next' : σ} (h : R next next') : Alike Spells R (.draw next) (.draw next')
  | save {next next' : σ} (h : R next next') : Alike Spells R (.save next) (.save next')
  | conclude (line : String) : Alike Spells R (.conclude line) (.conclude line)
  | finished : Alike Spells R .finished .finished

structure HelpProgress.Alike (p p' : HelpProgress) : Prop where
  topic : Option.Rel SameTopic p.topic p'.topic
  introCursor : p.introCursor = p'.introCursor
  topicCursor : p.topicCursor = p'.topicCursor

inductive Progress.Alike : Progress → Progress → Prop
  | same (p : Progress) : Alike p p
  | help {p p' : HelpProgress} (h : p.Alike p') : Alike (.help p) (.help p')

inductive Job.Alike : Job → Job → Prop
  | sum (p : SumProgress) : Alike (.sum p) (.sum p)
  | median (maxCount : UInt32) (p : MedianProgress) :
      Alike (.median maxCount p) (.median maxCount p)
  | randomSequence (maxCount : UInt32) (p : RandomProgress) :
      Alike (.randomSequence maxCount p) (.randomSequence maxCount p)
  | help {p p' : HelpProgress} (h : p.Alike p') : Alike (.help .standard p) (.help .standard p')

def Job.role : Job → Role
  | .help _ _ => .topic
  | _ => .number

theorem readInteger_congr {line line' : String} (h : Text.trim line = Text.trim line') :
    readInteger line = readInteger line' := by
  rw [readInteger, readInteger, h]

theorem readCount_congr {line line' : String} (h : Text.trim line = Text.trim line')
    (maxCount : UInt32) : readCount maxCount line = readCount maxCount line' := by
  rw [readCount, readCount, readInteger_congr h]

namespace Job

/-- What is read is related to itself when it depends on the trimmed line only. -/
theorem sameOutcome_map {read : String → Except InputError α} {f : α → Job}
    (hread : ∀ line line', Text.trim line = Text.trim line' → read line = read line')
    (hf : ∀ value, (f value).Alike (f value)) (line line' : String)
    (h : Role.number.Spells line line') :
    SameOutcome Job.Alike ((read line).map f) ((read line').map f) := by
  rw [hread line line' h]
  cases read line' with
  | error error => exact .error error
  | ok value => exact .ok (hf value)

theorem alike_next_sum (p : SumProgress) :
    Step.Alike Role.number.Spells Job.Alike (Job.sum p).next (Job.sum p).next := by
  have hask {f : Int64 → SumProgress} : Step.Alike Role.number.Spells Job.Alike
      ((Step.ask fun line => (readInteger line).map f).map .sum)
      ((Step.ask fun line => (readInteger line).map f).map .sum) := by
    rw [Step.map_ask_map]
    exact .ask (sameOutcome_map (fun _ _ => readInteger_congr) fun value => .sum _)
  simp only [Job.next, SumProgress.next]
  split
  · exact hask
  · exact hask
  · split
    · exact .conclude _
    · exact .reject _

theorem alike_next_median (maxCount : UInt32) (p : MedianProgress) :
    Step.Alike Role.number.Spells Job.Alike (Job.median maxCount p).next
      (Job.median maxCount p).next := by
  simp only [Job.next, MedianProgress.next]
  split
  · rw [Step.map_ask_map]
    exact .ask (sameOutcome_map (fun _ _ h => readCount_congr h maxCount) fun count => .median _ _)
  split
  · rw [Step.map_ask_map]
    exact .ask (sameOutcome_map (fun _ _ => readInteger_congr) fun value => .median _ _)
  · exact .conclude _

theorem alike_next_randomSequence (maxCount : UInt32) (p : RandomProgress) :
    Step.Alike Role.number.Spells Job.Alike (Job.randomSequence maxCount p).next
      (Job.randomSequence maxCount p).next := by
  simp only [Job.next, RandomProgress.next]
  split
  · rw [Step.map_ask_map]
    exact .ask (sameOutcome_map (fun _ _ h => readCount_congr h maxCount)
      fun count => .randomSequence _ _)
  split
  · exact .draw (.randomSequence _ _)
  · exact .finished

theorem alike_next_help {p p' : HelpProgress} (h : p.Alike p') :
    Step.Alike Role.topic.Spells Job.Alike (Job.help .standard p).next
      (Job.help .standard p').next := by
  obtain ⟨topic, introCursor, topicCursor⟩ := p
  obtain ⟨topic', introCursor', topicCursor'⟩ := p'
  obtain ⟨htopic, rfl, rfl⟩ := h
  dsimp only at htopic
  have hlength : HelpProgress.blockLength .standard ⟨topic, introCursor, topicCursor⟩ =
      HelpProgress.blockLength .standard ⟨topic', introCursor, topicCursor⟩ := by
    cases htopic with
    | none => rfl
    | some hsame => simp only [HelpProgress.blockLength, hsame.block_eq]
  simp only [Job.next, HelpProgress.next, hlength]
  split
  · exact .refuse _
  split
  · exact .tell _ (.help ⟨htopic, rfl, rfl⟩)
  cases htopic with
  | none =>
    refine .ask fun line line' hspells => .ok (.help ⟨.some ?_, rfl, rfl⟩)
    exact ⟨hspells.2, hspells.1.block_eq⟩
  | some hsame =>
    simp only [hsame.leave_iff, hsame.block_eq]
    split
    · exact .finished
    split
    · exact .tell _ (.help ⟨.some hsame, rfl, rfl⟩)
    · exact .save (.help ⟨.none, rfl, rfl⟩)

theorem Alike.next {job job' : Job} (h : job.Alike job') :
    Step.Alike job.role.Spells Job.Alike job.next job'.next := by
  cases h with
  | sum p => exact alike_next_sum p
  | median maxCount p => exact alike_next_median maxCount p
  | randomSequence maxCount p => exact alike_next_randomSequence maxCount p
  | help h => exact alike_next_help h

theorem Alike.progress {job job' : Job} (h : job.Alike job') :
    job.progress.Alike job'.progress := by
  cases h with
  | help h => exact .help h
  | _ => exact .same _

end Job

end DurableCalc
