import DurableCalc.Command.Step
import DurableCalc.Command.Guide
import DurableCalc.Snapshot.Basic

/-!
# The command `help`

It writes the introduction of a guide and then answers topics, line by line, until a line says to
leave. A cursor past the end of its block cannot have been saved by it and is refused.
-/

namespace DurableCalc.HelpProgress

def blockLength (guide : Guide) (p : HelpProgress) : Nat :=
  match p.topic with
  | none => 0
  | some topic => (guide.block topic).length

def next (guide : Guide) (p : HelpProgress) : Step HelpProgress :=
  if guide.intro.length < p.introCursor.toNat ∨ p.blockLength guide < p.topicCursor.toNat then
    .refuse (.helpCursor p.introCursor.toNat guide.intro.length p.topicCursor.toNat
      (p.blockLength guide))
  else
    match guide.intro[p.introCursor.toNat]? with
    | some line => .tell line { p with introCursor := p.introCursor + 1 }
    | none =>
      match p.topic with
      | none => .ask fun line => .ok { p with topic := some line }
      | some topic =>
        if Text.trim topic = Guide.leaveKeyword then .finished
        else
          match (guide.block topic)[p.topicCursor.toNat]? with
          | some line => .tell line { p with topicCursor := p.topicCursor + 1 }
          | none => .save { p with topic := none, topicCursor := 0 }

/-- How many lines are still to be written before the next one is asked for, and how many topics are
still to be left. -/
def work (guide : Guide) (p : HelpProgress) : Nat :=
  (guide.intro.length - p.introCursor.toNat) +
    match p.topic with
    | none => 0
    | some topic => (guide.block topic).length - p.topicCursor.toNat + 1

theorem toNat_add_one {x : UInt64} (h : x.toNat < 3) : (x + 1).toNat = x.toNat + 1 := by
  rw [UInt64.toNat_add]
  simp
  omega

theorem work_lt {guide : Guide} {p q : HelpProgress} (h : (p.next guide).goesOn? = some q) :
    q.work guide < p.work guide := by
  unfold next at h
  split at h
  · cases h
  split at h
  · rename_i hline
    cases h
    have hlt := (List.getElem?_eq_some_iff.1 hline).1
    have := toNat_add_one (by simpa using hlt)
    simp only [work, this, Guide.length_intro] at hlt ⊢
    omega
  split at h
  · cases h
  rename_i topic htopic
  split at h
  · cases h
  split at h
  · rename_i hline
    cases h
    have hlt := (List.getElem?_eq_some_iff.1 hline).1
    have hblock := guide.length_block_le topic
    have : (p.topicCursor + 1).toNat = p.topicCursor.toNat + 1 := toNat_add_one (by omega)
    simp only [work, this, htopic]
    omega
  · cases h
    simp [work, htopic]

end DurableCalc.HelpProgress
