import DurableCalc.Proofs.Session.Lockstep
import DurableCalc.Proofs.Text.Numeral

/-!
# Lines with numbers

A command that asks for a number reads one line. Where the line is a numeral of a 64-bit integer,
blanks around it apart, and for a count within the limit, the command goes on with the number and
saves it. With any other line the run stops on an error of its input, and nothing is saved. Zeros in
front of the digits do not change what is read, so that every integer is read from each of its
numerals.
-/

namespace DurableCalc

def IntegerLine (line : String) (n : Int) : Prop :=
  ∃ before numeral after, line.toList = before ++ numeral ++ after ∧
    (∀ c ∈ before, Text.isBlank c = true) ∧ Text.IsNumeral numeral n ∧
      ∀ c ∈ after, Text.isBlank c = true

theorem integerLine_iff {line : String} {n : Int} :
    IntegerLine line n ↔ Text.IsNumeral (Text.trim line).toList n := by
  rw [Text.toList_trim]
  constructor
  · rintro ⟨before, numeral, after, hline, hbefore, hnumeral, hafter⟩
    rwa [hline, Text.trimChars_append hbefore hnumeral.isBlank_eq_false hafter]
  · intro hnumeral
    obtain ⟨before, after, hline, hbefore, hafter⟩ := Text.exists_trimChars line.toList
    exact ⟨before, _, after, hline, hbefore, hnumeral, hafter⟩

theorem readInteger_eq_ok_iff {line : String} {v : Int64} :
    readInteger line = .ok v ↔ IntegerLine line v.toInt := by
  rw [integerLine_iff, ← Text.readInt64_eq_ok_iff, readInteger]
  split <;> rename_i hread <;> simp [hread]

theorem readCount_eq_ok_iff {maxCount n : UInt32} {line : String} :
    readCount maxCount line = .ok n ↔
      ∃ v, readInteger line = .ok v ∧ v.toInt = n.toNat ∧ n ≤ maxCount := by
  unfold readCount
  cases hread : readInteger line with
  | error error => simp
  | ok value =>
    simp only [Except.ok.injEq, exists_eq_left']
    constructor
    · intro h
      split at h
      · rename_i hrange
        have hlt : value.toInt.toNat < UInt32.size :=
          Nat.lt_of_le_of_lt (by omega) maxCount.toNat_lt
        have hto : value.toInt.toNat.toUInt32.toNat = value.toInt.toNat :=
          UInt32.toNat_ofNat_of_lt' hlt
        cases h
        rw [UInt32.le_iff_toNat_le, hto]
        omega
      · cases h
    · rintro ⟨hvalue, hle⟩
      rw [UInt32.le_iff_toNat_le] at hle
      rw [if_pos (by omega), hvalue, Int.toNat_natCast]
      exact congrArg Except.ok UInt32.ofNat_toNat

namespace Text

/-- A numeral with zeros in front of its digits, behind the sign if there is one. -/
def withZeros (zeros : Nat) : List Char → List Char
  | '+' :: digits => '+' :: (List.replicate zeros '0' ++ digits)
  | '-' :: digits => '-' :: (List.replicate zeros '0' ++ digits)
  | digits => List.replicate zeros '0' ++ digits

theorem withZeros_digits {digits : List Char} (hdigits : ∀ c ∈ digits, c.isDigit = true)
    (zeros : Nat) : withZeros zeros digits = List.replicate zeros '0' ++ digits := by
  fun_cases withZeros with
  | case1 digits => exact absurd (hdigits '+' List.mem_cons_self) (by decide)
  | case2 digits => exact absurd (hdigits '-' List.mem_cons_self) (by decide)
  | case3 => rfl

theorem IsNumeral.withZeros {cs : List Char} {n : Int} (h : IsNumeral cs n) (zeros : Nat) :
    IsNumeral (withZeros zeros cs) n := by
  have hne {digits : List Char} (hne : digits ≠ []) : List.replicate zeros '0' ++ digits ≠ [] :=
    List.append_ne_nil_of_right_ne_nil _ hne
  have hdigits {digits : List Char} (hdigits : ∀ c ∈ digits, c.isDigit = true) :
      ∀ c ∈ List.replicate zeros '0' ++ digits, c.isDigit = true := by
    rw [List.forall_mem_append]
    exact ⟨fun c hc => List.eq_of_mem_replicate hc ▸ by decide, hdigits⟩
  have hvalue (digits : List Char) : Nat.ofDigitChars 10 digits 0 =
      Nat.ofDigitChars 10 (List.replicate zeros '0' ++ digits) 0 := by
    rw [Nat.ofDigitChars_append, Nat.ofDigitChars_replicate_zero]
    simp
  cases h with
  | unsigned h h' =>
    rw [withZeros_digits h', hvalue]
    exact .unsigned (hne h) (hdigits h')
  | plus h h' =>
    rw [hvalue]
    exact .plus (hne h) (hdigits h')
  | minus h h' =>
    rw [hvalue]
    exact .minus (hne h) (hdigits h')

end Text

theorem Text.IsNumeral.integerLine {before numeral after : List Char} {n : Int}
    (h : Text.IsNumeral numeral n) (hblank : ∀ c ∈ before ++ after, Text.isBlank c = true) :
    IntegerLine (String.ofList (before ++ numeral ++ after)) n := by
  rw [List.forall_mem_append] at hblank
  exact ⟨before, numeral, after, String.toList_ofList, hblank.1, h, hblank.2⟩

/-- A count is read from a numeral of it, if it is within the limit. -/
theorem readCount_eq_ok_iff_integerLine {maxCount n : UInt32} {line : String} :
    readCount maxCount line = .ok n ↔ IntegerLine line n.toNat ∧ n ≤ maxCount := by
  rw [readCount_eq_ok_iff]
  constructor
  · rintro ⟨v, hread, hvalue, hle⟩
    exact ⟨hvalue ▸ readInteger_eq_ok_iff.1 hread, hle⟩
  · rintro ⟨hline, hle⟩
    have hvalue : (Int64.ofInt n.toNat).toInt = n.toNat := by
      have hlt := n.toNat_lt
      exact Int64.toInt_ofInt_of_le (by omega) (by omega)
    exact ⟨_, readInteger_eq_ok_iff.2 (hvalue.symm ▸ hline), hvalue, hle⟩

namespace Job

def AsksInteger (job : Job) (take : Int64 → Job) : Prop :=
  job.next = .ask fun line => (readInteger line).map take

def AsksCount (job : Job) (maxCount : UInt32) (take : UInt32 → Job) : Prop :=
  (job.command = .median maxCount ∨ job.command = .randomSequence maxCount) ∧
    job.next = .ask fun line => (readCount maxCount line).map take

/-- Every line that a command other than `help` asks for is to be a number. -/
theorem asks_number {job : Job} {accept : String → Except InputError Job}
    (hnext : job.next = .ask accept) (hkind : job.command.kind ≠ .help) :
    (∃ take, job.AsksInteger take) ∨ ∃ maxCount take, job.AsksCount maxCount take := by
  cases job with
  | sum p =>
    cases hfirst : p.first with
    | none =>
      refine .inl ⟨fun v => .sum { p with first := some v }, ?_⟩
      simp only [AsksInteger, Job.next, SumProgress.next, hfirst]
      exact Step.map_ask_map
    | some first =>
      cases hsecond : p.second with
      | none =>
        refine .inl ⟨fun v => .sum { p with second := some v }, ?_⟩
        simp only [AsksInteger, Job.next, SumProgress.next, hfirst, hsecond]
        exact Step.map_ask_map
      | some second =>
        simp only [Job.next, SumProgress.next, hfirst, hsecond] at hnext
        split at hnext <;> cases hnext
  | median maxCount p =>
    cases hcount : p.count with
    | none =>
      refine .inr ⟨maxCount, fun n => .median maxCount { p with count := some n }, .inl rfl, ?_⟩
      simp only [Job.next, MedianProgress.next, hcount]
      exact Step.map_ask_map
    | some count =>
      simp only [AsksInteger, Job.next, MedianProgress.next, hcount] at hnext ⊢
      split at hnext
      · rename_i hlt
        refine .inl ⟨fun v => .median maxCount (p.push v), ?_⟩
        rw [if_pos hlt]
        exact Step.map_ask_map
      · cases hnext
  | randomSequence maxCount p =>
    cases hcount : p.count with
    | none =>
      refine .inr
        ⟨maxCount, fun n => .randomSequence maxCount { p with count := some n }, .inr rfl, ?_⟩
      simp only [Job.next, RandomProgress.next, hcount]
      exact Step.map_ask_map
    | some count =>
      simp only [Job.next, RandomProgress.next, hcount] at hnext
      split at hnext <;> cases hnext
  | help guide p => exact absurd rfl hkind

end Job

namespace Session

open Machine

variable {r : Registry} {s : Snapshot} {k : Option Job} {job : Job} {ω : Type} [World ω]
  {c : Checkpointer} {w w₁ : ω} {line : String} {α : Type}

theorem next_of_job? (h : job? r s k = some job) : next r s k = workOn s job := by
  cases k with
  | some job' =>
    cases h
    rfl
  | none =>
    unfold job? at h
    dsimp only at h
    split at h
    · cases h
    rename_i line hpending
    split at h
    · rename_i hdemand
      cases h
      exact next_of_atWork ⟨line, hpending, hdemand⟩
    · cases h

/-- A session whose job has asked for a line and got it, the world being the second one after it:
with a line for a value the job goes on with the value, which is saved next, and with a line for
none the run stops there on an error of its input. -/
def Receives (r : Registry) (c : Checkpointer) (k : Option Job) (w w₁ : ω) (IsLine : α → Prop)
    (take : α → Job) : Prop :=
  (∀ value, IsLine value → carryOut (next r c.snapshot k) c w =
    saveThen (c.snapshot.stage (take value).progress) (some (take value)) c w₁) ∧
  ((∀ value, ¬ IsLine value) →
    ∃ error, (machine r).run c k w = (.error (.input error), c, w₁))

theorem receives_of_read {read : String → Except InputError α} {take : α → Job}
    {IsLine : α → Prop} (hjob : job? r c.snapshot k = some job)
    (hnext : job.next = .ask fun line => (read line).map take)
    (hread : World.readLine w = (.ok line, w₁))
    (hvalue : ∀ value, read line = .ok value ↔ IsLine value) :
    Receives r c k w w₁ IsLine take := by
  have hmove : next r c.snapshot k = (Step.ask fun line => (read line).map take).toMove c.snapshot
      some (fun line => .tell [] line c.snapshot.completed none)
      (.save c.snapshot.completed none) := by
    rw [next_of_job? hjob, workOn, hnext]
  refine ⟨fun value hline => ?_, fun hnone => ?_⟩
  · have hok := (hvalue value).2 hline
    rw [hmove]
    simp only [Step.toMove, carryOut_eq, hread, hok, Except.map]
  · cases hresult : read line with
    | ok value => exact absurd ((hvalue value).1 hresult) (hnone value)
    | error error =>
      refine ⟨error, run_over ?_⟩
      have hturn : carryOut (next r c.snapshot k) c w = .over (.error (.input error)) c w₁ := by
        rw [hmove]
        simp only [Step.toMove, carryOut_eq, hread, hresult, Except.map]
      exact hturn

/-- A line is read as an integer just if it is a numeral of it, blanks around it apart, and as a
count just if it is read as an integer up to the limit; what is written for an integer is read back,
with any zeros and blanks. Every line that a command other than `help` asks for is read in one of
these ways, in any world: one line is used up, and either the number in it is saved or the run has
ended on an error of its input with the checkpointer and the slot as they were. -/
theorem numbers_received :
    (∀ (line : String) (v : Int64), readInteger line = .ok v ↔ IntegerLine line v.toInt) ∧
    (∀ (maxCount : UInt32) (line : String) (n : UInt32), readCount maxCount line = .ok n ↔
      ∃ v, readInteger line = .ok v ∧ v.toInt = n.toNat ∧ n ≤ maxCount) ∧
    (∀ (v : Int64) (zeros : Nat) (before after : List Char),
      (∀ c ∈ before ++ after, Text.isBlank c = true) →
      readInteger (String.ofList
        (before ++ Text.withZeros zeros (Text.decimal v.toInt).toList ++ after)) = .ok v) ∧
    (∀ (job : Job) (accept : String → Except InputError Job), job.next = .ask accept →
      job.command.kind ≠ .help →
      (∃ take, job.AsksInteger take) ∨ ∃ maxCount take, job.AsksCount maxCount take) ∧
    ∀ {ω : Type} [World ω] (r : Registry) (c : Checkpointer) (k : Option Job) (w w₁ : ω)
      (job : Job) (line : String), job? r c.snapshot k = some job →
      World.readLine w = (.ok line, w₁) →
      (∀ take, job.AsksInteger take →
        Receives r c k w w₁ (fun v : Int64 => IntegerLine line v.toInt) take) ∧
      ∀ maxCount take, job.AsksCount maxCount take →
        Receives r c k w w₁ (fun n : UInt32 => IntegerLine line n.toNat ∧ n ≤ maxCount) take := by
  refine ⟨fun line v => readInteger_eq_ok_iff, fun maxCount line n => readCount_eq_ok_iff, ?_,
    fun job accept => Job.asks_number, ?_⟩
  · intro v zeros before after hblank
    have hnumeral := (Text.isNumeral_decimal v.toInt).withZeros zeros
    exact readInteger_eq_ok_iff.2 (hnumeral.integerLine hblank)
  · intro ω _ r c k w w₁ job line hjob hread
    constructor
    · intro take hnext
      exact receives_of_read hjob hnext hread fun v => readInteger_eq_ok_iff
    · intro maxCount take hcount
      exact receives_of_read hjob hcount.2 hread fun n => readCount_eq_ok_iff_integerLine

/-- The first operand of `sum`, written with zeros and blanks. -/
theorem numbers_received_sum :
    let w : Rehearsal := { lines := ["\t-007 ", "1"] }
    let w₁ : Rehearsal := { lines := ["1"], channelCalls := 1, newest := [.read "\t-007 "] }
    let c : Checkpointer := { snapshot := { pendingInput := some "sum" } }
    let operand : Job := .sum { first := some (-7) }
    job? (.standard 5) c.snapshot none = some (.sum {}) ∧ World.readLine w = (.ok "\t-007 ", w₁) ∧
      (Job.sum {}).AsksInteger (fun v => .sum { first := some v }) ∧
      IntegerLine "\t-007 " (-7) ∧
      carryOut (next (.standard 5) c.snapshot none) c w =
        saveThen (c.snapshot.stage operand.progress) (some operand) c w₁ := by
  intro w w₁ c operand
  have hjob : job? (.standard 5) c.snapshot none = some (.sum {}) := rfl
  have hread : World.readLine w = (.ok "\t-007 ", w₁) := rfl
  have hasks : (Job.sum {}).AsksInteger (fun v => .sum { first := some v }) := Step.map_ask_map
  obtain ⟨hinteger, -, -, -, hreceives⟩ := numbers_received
  have hline : IntegerLine "\t-007 " (-7) := (hinteger "\t-007 " (-7)).1 (by decide)
  exact ⟨hjob, hread, hasks, hline,
    ((hreceives _ c none w w₁ _ _ hjob hread).1 _ hasks).1 (-7) hline⟩

end Session

end DurableCalc
