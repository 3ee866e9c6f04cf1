import DurableCalc.Proofs.Command.Names
import DurableCalc.Proofs.Json.Number
import DurableCalc.Proofs.Session.Transition

/-!
# Each line is one line

No line that a standard session writes has a newline in it, so that the newlines in the output are
exactly the ends of its lines.
-/

namespace DurableCalc

def SingleLine (line : String) : Prop :=
  0x0a ∉ Text.encode line

instance (line : String) : Decidable (SingleLine line) :=
  inferInstanceAs (Decidable (0x0a ∉ Text.encode line))

theorem SingleLine.append {a b : String} (ha : SingleLine a) (hb : SingleLine b) :
    SingleLine (a ++ b) := by
  rw [SingleLine, Text.encode_append]
  exact List.not_mem_append ha hb

theorem singleLine_decimal (n : Int) : SingleLine (Text.decimal n) := by
  have hdigits : 0x0a ∉ Json.digits n.natAbs := by
    intro hmem
    have hdigit := Json.isDigit_of_mem_digits hmem
    cases hdigit
  show 0x0a ∉ Json.writeInt n
  by_cases hneg : n < 0
  · rw [Json.writeInt_of_neg hneg, List.mem_cons, not_or]
    exact ⟨by decide, hdigits⟩
  · rw [Json.writeInt_of_nonneg (by omega)]
    exact hdigits

theorem singleLine_text (m : Median) : SingleLine m.text := by
  have hhalf : SingleLine ".5" := by decide
  have hminus : SingleLine "-" := by decide
  unfold Median.text
  split
  · exact singleLine_decimal _
  split
  · exact (hminus.append (singleLine_decimal _)).append hhalf
  · exact (singleLine_decimal _).append hhalf

namespace Guide

theorem singleLine_intro : ∀ line ∈ standard.intro, SingleLine line := by decide

theorem singleLine_block {line query : String} (h : line ∈ standard.block query) :
    SingleLine line := by
  have hsummary : ∀ t ∈ standard.topics, SingleLine t.summary := by decide
  have hleave : SingleLine leaveLine := by decide
  have hfallback : ∀ line ∈ standard.fallback, SingleLine line := by decide
  unfold block at h
  split at h
  · rename_i t hfind
    rcases List.mem_pair.1 h with rfl | rfl
    · exact hsummary t (List.mem_of_find?_eq_some hfind)
    · exact hleave
  · exact hfallback line h

end Guide

section

variable {maxCount : UInt32} {s : Snapshot} {c : Command} {p q : Progress} {guide : Guide}
  {rng rng' : Int64} {seen : List Event} {line : String} {next : Option Snapshot}

/-- A standard session has only the standard guide. -/
theorem Snapshot.Active.guide_eq (h : s.Active (.standard maxCount) (.help guide) p) :
    guide = .standard := by
  obtain ⟨line, -, -, hlookup⟩ := h.called
  rw [Registry.lookup_standard] at hlookup
  obtain ⟨k, -, hstandard⟩ := Option.map_eq_some_iff.1 hlookup
  cases k <;> cases hstandard
  rfl

theorem Progress.Advances.singleLine (h : p.Advances rng c seen q rng')
    (hactive : s.Active (.standard maxCount) c p) (hline : .wrote line ∈ seen) :
    SingleLine line := by
  cases h with
  | draw hcount hn hle =>
    cases List.mem_singleton.1 hline
    exact singleLine_decimal _
  | intro hintro hn hle =>
    cases List.mem_singleton.1 hline
    rw [hactive.guide_eq] at hintro
    exact Guide.singleLine_intro _ (List.mem_of_getElem? hintro)
  | line hintro htopic hstay hanswer hn hle =>
    cases List.mem_singleton.1 hline
    rw [hactive.guide_eq] at hanswer
    exact Guide.singleLine_block (List.mem_of_getElem? hanswer)
  | _ => simp at hline

theorem Progress.Concludes.singleLine (h : p.Concludes c seen) (hline : .wrote line ∈ seen) :
    SingleLine line := by
  cases h with
  | sum hfirst hsecond hfits =>
    cases List.mem_singleton.1 hline
    exact singleLine_decimal _
  | median hcount hall =>
    cases List.mem_singleton.1 hline
    exact singleLine_text _
  | _ => cases hline

/-- A line that a standard session writes between two saves has no newline in it. -/
theorem Snapshot.Transition.singleLine (h : s.Transition (.standard maxCount) seen next)
    (hline : .wrote line ∈ seen) : SingleLine line := by
  cases h with
  | take hidle hcommand => simp at hline
  | advance hactive hadvances => exact hadvances.singleLine hactive hline
  | complete hactive hconcludes => exact hconcludes.singleLine hline
  | unknown hpending hstay hlookup hcommand =>
    cases List.mem_singleton.1 hline
    decide
  | leave hpending hleave => cases hline

end

end DurableCalc
