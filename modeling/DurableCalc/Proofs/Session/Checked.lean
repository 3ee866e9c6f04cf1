import DurableCalc.Proofs.Generator
import DurableCalc.Proofs.Plain.Refinement
import DurableCalc.Proofs.Session.Lockstep
import DurableCalc.Proofs.Session.Transition

/-!
# Nothing leaves its range

The steps of the commands in checked arithmetic: a cursor that cannot be moved on, a product that
does not fit, a difference below zero, a place that a list does not have, or a number of values that
was not asked for gives no step at all. In every configuration of a session the step in checked
arithmetic is there, and it is the step that the session takes.
-/

namespace DurableCalc

namespace Checked

def int64? (n : Int) : Option Int64 :=
  if -2 ^ 63 ≤ n ∧ n < 2 ^ 63 then some (Int64.ofInt n) else none

def uint64? (n : Nat) : Option UInt64 :=
  if n < UInt64.size then some (UInt64.ofNat n) else none

def uint32? (n : Nat) : Option UInt32 :=
  if n < UInt32.size then some (UInt32.ofNat n) else none

def int128? (n : Int) : Option Int :=
  if -2 ^ 127 ≤ n ∧ n < 2 ^ 127 then some n else none

def sub? (m n : Nat) : Option Nat :=
  if n ≤ m then some (m - n) else none

def generate? (state : Int64) : Option Int64 :=
  (int64? ((Generator.residue state).toInt * Generator.multiplier.toInt)).map
    (· % Generator.modulus)

/-- The median of as many values as were asked for, with no value put in for a missing one. -/
def median? (count : Nat) (values : List Int64) : Option Median :=
  let ascending := Median.sorted values
  let mid := ascending.length / 2
  if values.length ≠ count then none
  else
    match ascending[mid]? with
    | none => some ⟨0⟩
    | some upper =>
      if ascending.length % 2 = 1 then (int128? (2 * upper.toInt)).map Median.mk
      else
        ((sub? mid 1).bind fun below => ascending[below]?).bind fun lower =>
          (int128? (lower.toInt + upper.toInt)).map Median.mk

def sumStep? (p : SumProgress) : Option (Step SumProgress) :=
  match p.first, p.second with
  | some first, some second =>
    match int64? (first.toInt + second.toInt) with
    | some total => some (.conclude (Text.decimal total.toInt))
    | none => some (.reject (.overflow first second))
  | _, _ => some p.next

def medianStep? (maxCount : UInt32) (p : MedianProgress) : Option (Step MedianProgress) :=
  match p.count with
  | none => some (p.next maxCount)
  | some count =>
    if p.nextIndex.toNat < count.toNat then
      (uint64? (p.nextIndex.toNat + 1)).map fun n =>
        .ask fun line => (readInteger line).map fun value =>
          { p with values := p.values ++ [value], nextIndex := n }
    else (median? count.toNat p.values).map fun median => .conclude median.text

def randomStep? (maxCount : UInt32) (p : RandomProgress) : Option (Step RandomProgress) :=
  match p.count with
  | none => some (p.next maxCount)
  | some count =>
    if p.nextIndex < count then
      (uint32? (p.nextIndex.toNat + 1)).map fun n => .draw { p with nextIndex := n }
    else some .finished

def helpStep? (guide : Guide) (p : HelpProgress) : Option (Step HelpProgress) :=
  if guide.intro.length < p.introCursor.toNat ∨ p.blockLength guide < p.topicCursor.toNat then
    some (p.next guide)
  else
    match guide.intro[p.introCursor.toNat]? with
    | some line =>
      (uint64? (p.introCursor.toNat + 1)).map fun n => .tell line { p with introCursor := n }
    | none =>
      match p.topic with
      | none => some (p.next guide)
      | some topic =>
        if Text.trim topic = Guide.leaveKeyword then some .finished
        else
          match (guide.block topic)[p.topicCursor.toNat]? with
          | some line =>
            (uint64? (p.topicCursor.toNat + 1)).map fun n => .tell line { p with topicCursor := n }
          | none => some (.save { p with topic := none, topicCursor := 0 })

def step? : Job → Option (Step Job)
  | .sum p => (sumStep? p).map fun step => step.map .sum
  | .median maxCount p => (medianStep? maxCount p).map fun step => step.map (.median maxCount)
  | .randomSequence maxCount p =>
    (randomStep? maxCount p).map fun step => step.map (.randomSequence maxCount)
  | .help guide p => (helpStep? guide p).map fun step => step.map (.help guide)

theorem int64?_eq_some {n : Int} {x : Int64} (h : x.toInt = n) : int64? n = some x := by
  subst h
  rw [int64?, if_pos ⟨x.le_toInt, x.toInt_lt⟩, Int64.ofInt_toInt]

theorem uint64?_eq_some {n : Nat} {x : UInt64} (h : x.toNat = n) : uint64? n = some x := by
  subst h
  rw [uint64?, if_pos x.toNat_lt_size, UInt64.ofNat_toNat]

theorem uint32?_eq_some {n : Nat} {x : UInt32} (h : x.toNat = n) : uint32? n = some x := by
  subst h
  rw [uint32?, if_pos x.toNat_lt_size, UInt32.ofNat_toNat]

theorem generate?_eq (state : Int64) : generate? state = some (Generator.next state) := by
  rw [generate?, int64?_eq_some (Generator.toInt_residue_mul state)]
  rfl

theorem int128?_add (x y : Int64) : int128? (x.toInt + y.toInt) = some (x.toInt + y.toInt) := by
  have hx := x.toInt_lt
  have hx' := x.le_toInt
  have hy := y.toInt_lt
  have hy' := y.le_toInt
  exact if_pos ⟨by omega, by omega⟩

theorem median?_eq {count : Nat} {values : List Int64} (h : values.length = count) :
    median? count values = some (Median.of values) := by
  rw [median?, if_neg (not_not_intro h), Median.of]
  cases hupper : (Median.sorted values)[(Median.sorted values).length / 2]? with
  | none => rfl
  | some upper =>
    have hmid := (List.getElem?_eq_some_iff.1 hupper).1
    by_cases hodd : (Median.sorted values).length % 2 = 1
    · simp only [if_pos hodd, Int.two_mul, int128?_add, Option.map_some]
    · -- A list of even length that has a value in the middle has one before it.
      have hone : 1 ≤ (Median.sorted values).length / 2 := by omega
      have hbelow : (Median.sorted values).length / 2 - 1 < (Median.sorted values).length := by
        omega
      simp only [if_neg hodd, sub?, if_pos hone, Option.bind_some, List.getElem?_eq_getElem hbelow,
        int128?_add, Option.map_some, List.getD_eq_getElem?_getD, Option.getD_some]

theorem sumStep?_eq (p : SumProgress) : sumStep? p = some p.next := by
  unfold sumStep?
  split
  · rename_i first second hfirst hsecond
    have hfits : SumProgress.fits (first.toInt + second.toInt) = true ↔
        -2 ^ 63 ≤ first.toInt + second.toInt ∧ first.toInt + second.toInt < 2 ^ 63 := by
      rw [Plain.fits_iff]
      omega
    simp only [SumProgress.next, hfirst, hsecond]
    by_cases hrange : -2 ^ 63 ≤ first.toInt + second.toInt ∧ first.toInt + second.toInt < 2 ^ 63
    · have htotal := Int64.toInt_ofInt_of_le hrange.1 hrange.2
      simp only [int64?_eq_some htotal, htotal, if_pos (hfits.2 hrange)]
    · simp only [int64?, if_neg hrange, if_neg (mt hfits.1 hrange)]
  · rfl

theorem medianStep?_eq (maxCount : UInt32) {p : MedianProgress}
    (hfault : (Progress.median p).fault? = none) :
    medianStep? maxCount p = some (p.next maxCount) := by
  cases hcount : p.count with
  | none => simp only [medianStep?, hcount]
  | some count =>
    obtain ⟨hindex, hvalues⟩ : p.nextIndex.toNat = p.values.length ∧
        p.values.length ≤ count.toNat := by
      simpa [Progress.fault?, hcount] using hfault
    simp only [medianStep?, MedianProgress.next, hcount]
    by_cases hlt : p.nextIndex.toNat < count.toNat
    · have hnext := MedianProgress.toNat_nextIndex_push 0 hlt
      rw [if_pos hlt, if_pos hlt, uint64?_eq_some hnext, Option.map_some, ← hcount]
      rfl
    · have hall : p.values.length = count.toNat := by omega
      rw [if_neg hlt, if_neg hlt, median?_eq hall, Option.map_some]

theorem randomStep?_eq (maxCount : UInt32) (p : RandomProgress) :
    randomStep? maxCount p = some (p.next maxCount) := by
  cases hcount : p.count with
  | none => simp only [randomStep?, hcount]
  | some count =>
    simp only [randomStep?, RandomProgress.next, hcount]
    by_cases hlt : p.nextIndex < count
    · have hnext := RandomProgress.toNat_add_one hlt
      rw [if_pos hlt, if_pos hlt, uint32?_eq_some hnext, Option.map_some]
    · rw [if_neg hlt, if_neg hlt]

theorem helpStep?_eq (guide : Guide) (p : HelpProgress) :
    helpStep? guide p = some (p.next guide) := by
  unfold helpStep?
  split
  · rfl
  rename_i hwithin
  cases hline : guide.intro[p.introCursor.toNat]? with
  | some line =>
    have hnext := HelpProgress.toNat_add_one (List.getElem?_eq_some_iff.1 hline).1
    simp only [HelpProgress.next, if_neg hwithin, hline, uint64?_eq_some hnext, Option.map_some]
  | none =>
    cases htopic : p.topic with
    | none => rfl
    | some topic =>
      by_cases hleave : Text.trim topic = Guide.leaveKeyword
      · simp only [HelpProgress.next, if_neg hwithin, hline, htopic, if_pos hleave]
      · cases hanswer : (guide.block topic)[p.topicCursor.toNat]? with
        | some line =>
          have hlt := (List.getElem?_eq_some_iff.1 hanswer).1
          have hblock := guide.length_block_le topic
          have hnext : (p.topicCursor + 1).toNat = p.topicCursor.toNat + 1 :=
            HelpProgress.toNat_add_one (by omega)
          simp only [HelpProgress.next, if_neg hwithin, hline, htopic, if_neg hleave, hanswer,
            uint64?_eq_some hnext, Option.map_some]
        | none =>
          simp only [HelpProgress.next, if_neg hwithin, hline, htopic, if_neg hleave, hanswer]

/-- Where the progress of a job breaks no bound, no number in its next step leaves its range. -/
theorem step?_eq {job : Job} (hfault : job.progress.fault? = none) :
    step? job = some job.next := by
  cases job with
  | sum p => rw [step?, sumStep?_eq]; rfl
  | median maxCount p => rw [step?, medianStep?_eq maxCount hfault]; rfl
  | randomSequence maxCount p => rw [step?, randomStep?_eq]; rfl
  | help guide p => rw [step?, helpStep?_eq]; rfl

end Checked

namespace Session

/-- The move of a session whose job, if it has one, steps in checked arithmetic. -/
def checkedNext? (r : Registry) (s : Snapshot) (k : Option Job) : Option (Move (Option Job)) :=
  match job? r s k with
  | none => some (next r s k)
  | some job =>
    (Checked.step? job).map fun step =>
      step.toMove s some (fun line => .tell [] line s.completed none) (.save s.completed none)

theorem checkedNext?_eq {r : Registry} {s : Snapshot} {k : Option Job} (hsettled : Settled r s k)
    (hfault : s.fault? = none) : checkedNext? r s k = some (next r s k) := by
  unfold checkedNext?
  cases hjob : job? r s k with
  | none => rfl
  | some job =>
    have hwork := atWork_of_job? hsettled hjob
    dsimp only
    rw [Checked.step?_eq (hwork.fault? hfault), next_of_settled hsettled, next_of_atWork hwork]
    rfl

/-- Whatever the slot holds and whatever is read or refused, no number in a session leaves its
range: each move is the one in checked arithmetic, in which every cursor moves on within its type,
the sum of two operands is formed only if it fits, and a median is that of as many values as were
asked for, each of the two in the middle being there. The product by which the generator advances
fits from every state. -/
theorem moves_checked (r : Registry) (blob : Bytes) (lines : List String)
    (refuseCall : Nat → Option (Moment × String)) (refuseStore : Nat → Option String)
    (refuseLoad : Option String) :
    let opened := Rehearsal.opening blob lines refuseCall refuseStore
    let w := { opened with vault := { opened.vault with refuseLoad } }
    (∀ c k w', Meets r w c k w' → checkedNext? r c.snapshot k = some (next r c.snapshot k)) ∧
      ∀ state, Checked.generate? state = some (Generator.next state) := by
  intro opened w
  refine ⟨?_, Checked.generate?_eq⟩
  intro c k w' hmeets
  obtain ⟨s, trace, hrestore, hcourse, -, hsettled⟩ := course_of_meets (w := w) rfl hmeets
  exact checkedNext?_eq hsettled (hcourse.fault? (Snapshot.fault?_of_restore hrestore))

end Session

end DurableCalc
