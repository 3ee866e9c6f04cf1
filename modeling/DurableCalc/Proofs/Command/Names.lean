import DurableCalc.Command.Registry
import Mathlib.Data.List.DropRight

/-!
# The names of the commands

The standard registry finds a command by a name in lower case: six names call four kinds of command,
and the limit on counts has no part in it. Trimming a line twice is trimming it once.
-/

namespace DurableCalc

namespace Text

/-- A list that starts with no blank has no first part that starts with one. -/
theorem dropWhile_eq_of_prefix {p : Char → Bool} {as bs : List Char} (h : bs <+: as)
    (has : as.dropWhile p = as) : bs.dropWhile p = bs := by
  rw [List.dropWhile_eq_self_iff] at has ⊢
  intro hpos
  rw [h.getElem hpos]
  exact has (Nat.lt_of_lt_of_le hpos h.length_le)

@[simp] theorem trim_trim (text : String) : trim (trim text) = trim text := by
  have hchars (cs : List Char) : trimChars (trimChars cs) = trimChars cs := by
    have hright : (trimChars cs) <+: cs.dropWhile isBlank :=
      List.rdropWhile_prefix isBlank (cs.dropWhile isBlank)
    have hleft : (trimChars cs).dropWhile isBlank = trimChars cs :=
      dropWhile_eq_of_prefix hright (List.dropWhile_idempotent isBlank cs)
    have hagain : (trimChars cs).rdropWhile isBlank = trimChars cs :=
      List.rdropWhile_idempotent isBlank (cs.dropWhile isBlank)
    calc trimChars (trimChars cs)
        = ((trimChars cs).dropWhile isBlank).rdropWhile isBlank := rfl
      _ = trimChars cs := by rw [hleft, hagain]
  rw [trim, toList_trim, hchars, trim]

end Text

def Guide.standard : Guide :=
  ⟨[.of Command.sum.description, .of (Command.median 0).description,
    .of (Command.randomSequence 0).description]⟩

def Command.standard (maxCount : UInt32) : Kind → Command
  | .sum => .sum
  | .median => .median maxCount
  | .randomSequence => .randomSequence maxCount
  | .help => .help .standard

@[simp] theorem Command.kind_standard (maxCount : UInt32) (k : Kind) :
    (Command.standard maxCount k).kind = k := by
  cases k <;> rfl

def Kind.called (name : String) : Option Kind :=
  if name = "help" then some .help
  else if name = "random-sequence" ∨ name = "rand" then some .randomSequence
  else if name = "median" then some .median
  else if name = "sum" ∨ name = "add" then some .sum
  else none

theorem Registry.lookup_standard (maxCount : UInt32) (name : String) :
    (Registry.standard maxCount).lookup name =
      (Kind.called (Text.fold (Text.trim name))).map (Command.standard maxCount) := by
  unfold Registry.lookup
  dsimp only
  generalize Text.fold (Text.trim name) = key
  have hcommands : (Registry.standard maxCount).commands.reverse =
      [.help .standard, .randomSequence maxCount, .median maxCount, .sum] := rfl
  have hfold : ∀ own ∈ ["help", "random-sequence", "rand", "median", "sum", "add"],
      Text.fold own = own := by decide
  simp only [List.forall_mem_cons] at hfold
  rw [hcommands]
  by_cases hkey : key ∈ ["help", "random-sequence", "rand", "median", "sum", "add"]
  · simp only [List.mem_cons, List.not_mem_nil, or_false] at hkey
    rcases hkey with rfl | rfl | rfl | rfl | rfl | rfl <;>
      simp [Kind.called, Command.standard, Command.description, Description.names,
        Kind.commandName, hfold]
  · simp only [List.mem_cons, List.not_mem_nil, not_or, or_false, ← ne_eq] at hkey
    obtain ⟨hhelp, hrandom, hrand, hmedian, hsum, hadd⟩ := hkey
    simp [Kind.called, Command.description, Description.names, Kind.commandName, hfold, hhelp,
      hrandom, hrand, hmedian, hsum, hadd, hhelp.symm, hrandom.symm, hrand.symm, hmedian.symm,
      hsum.symm, hadd.symm]

end DurableCalc
