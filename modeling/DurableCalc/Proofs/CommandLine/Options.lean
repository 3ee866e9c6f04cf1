import DurableCalc.CommandLine.Basic

/-!
# The values of options

An option has the value that the arguments give it, in an argument of its own or behind an equals
sign, if they give it one at all. It is not given twice, and a value is never the empty text. This
is told from the arguments alone; that they are read with an option pending is left behind.
-/

namespace DurableCalc.CommandLine

variable {c c' : CommandLine} {o p : ValueOption} {value : String} {args : List String}
  {pending : Pending}

def value? (c : CommandLine) : ValueOption → Option String
  | .config => c.config
  | .state => c.state
  | .logFormat => c.logFormat.map LogFormat.word

/-- The value that the arguments up to an action give an option. One option may await the first of
them as its value. -/
def given (o : ValueOption) : Option ValueOption → List String → Option String
  | _, [] => none
  | some awaiting, arg :: rest => if awaiting = o then some arg else given o none rest
  | none, arg :: rest =>
    match Flag.of? arg with
    | some (.option p (some value)) => if p = o then some value else given o none rest
    | some (.option p none) => given o (some p) rest
    | _ => none

/-- An option keeps the value that it has, or else takes the one that it is given, if there is one;
values are not empty. -/
structure Receives (o : ValueOption) (value : Option String) (c c' : CommandLine) : Prop where
  value?_eq : c'.value? o = (c.value? o).or value
  ne_empty : c.value? o ≠ some "" → c'.value? o ≠ some ""

namespace Receives

variable {first second : Option String} {c'' : CommandLine}

theorem refl (o : ValueOption) (c : CommandLine) : Receives o none c c :=
  ⟨(Option.or_none).symm, id⟩

theorem trans (h : Receives o first c c') (h' : Receives o second c' c'') :
    Receives o (first.or second) c c'' where
  value?_eq := by rw [h'.value?_eq, h.value?_eq, Option.or_assoc]
  ne_empty hne := h'.ne_empty (h.ne_empty hne)

end Receives

theorem assign_eq_ok (h : c.assign p value = .ok c') : c.value? p = none ∧ value ≠ "" ∧
    c'.value? p = some value ∧ ∀ o, p ≠ o → c'.value? o = c.value? o := by
  cases p with
  | config =>
    unfold assign at h
    dsimp only at h
    split at h
    · cases h
    rename_i hnone
    split at h
    · cases h
    rename_i hvalue
    cases h
    refine ⟨by simpa [value?] using hnone, by simpa using hvalue, rfl, fun o hne => ?_⟩
    cases o <;> first | rfl | exact absurd rfl hne
  | state =>
    unfold assign at h
    dsimp only at h
    split at h
    · cases h
    rename_i hnone
    split at h
    · cases h
    rename_i hvalue
    cases h
    refine ⟨by simpa [value?] using hnone, by simpa using hvalue, rfl, fun o hne => ?_⟩
    cases o <;> first | rfl | exact absurd rfl hne
  | logFormat =>
    unfold assign at h
    dsimp only at h
    split at h
    · cases h
    rename_i hnone
    split at h
    · cases h
    rename_i format hfind
    cases h
    obtain rfl : format.word = value := by simpa using List.find?_some hfind
    refine ⟨by simpa [value?] using hnone, by cases format <;> decide, rfl, fun o hne => ?_⟩
    cases o <;> first | rfl | exact absurd rfl hne

theorem receives_assign (h : c.assign p value = .ok c') (o : ValueOption) :
    Receives o (if p = o then some value else none) c c' := by
  obtain ⟨hnone, hvalue, hassigned, hother⟩ := assign_eq_ok h
  by_cases hp : p = o
  · subst hp
    rw [if_pos rfl]
    exact ⟨by rw [hassigned, hnone, Option.none_or], fun _ => by simpa [hassigned] using hvalue⟩
  · rw [if_neg hp]
    exact ⟨by rw [hother o hp, Option.or_none], fun hne => by rwa [hother o hp]⟩

def held (o : ValueOption) : Pending → Option String
  | some (p, some value) => if p = o then some value else none
  | _ => none

def awaited : Pending → Option ValueOption
  | some (p, none) => some p
  | _ => none

theorem settle_eq_ok (h : c.settle pending = .ok c') :
    awaited pending = none ∧ ∀ o, Receives o (held o pending) c c' := by
  match pending with
  | none =>
    cases h
    exact ⟨rfl, fun o => .refl o _⟩
  | some (p, none) => cases h
  | some (p, some value) => exact ⟨rfl, receives_assign h⟩

theorem bind_eq_ok {x : Except ε α} {f : α → Except ε β} {b : β} (h : x >>= f = .ok b) :
    ∃ a, x = .ok a ∧ f a = .ok b := by
  cases x with
  | error error => cases h
  | ok a => exact ⟨a, rfl, h⟩

theorem or_ite (p o : ValueOption) (value : String) (later : Option String) :
    (if p = o then some value else none).or later = if p = o then some value else later := by
  by_cases hp : p = o <;> simp [hp]

theorem receives_readFrom (h : readFrom pending c args = .ok c') (o : ValueOption) :
    Receives o ((held o pending).or (given o (awaited pending) args)) c c' := by
  induction args generalizing pending c with
  | nil =>
    obtain ⟨-, hreceives⟩ := settle_eq_ok h
    rw [given, Option.or_none]
    exact hreceives o
  | cons arg rest ih =>
    unfold readFrom at h
    dsimp only at h
    split at h
    · -- Nothing may follow two dashes.
      rename_i hdashes
      cases rest with
      | cons word rest => cases h
      | nil =>
        obtain ⟨hawaited, hreceives⟩ := settle_eq_ok h
        rw [hawaited, hdashes, show given o none ["--"] = none from rfl, Option.or_none]
        exact hreceives o
    split at h
    · rename_i flag hflag
      split at h
      · cases h
      · cases h
      · cases h
      · obtain ⟨_, -, hrefused⟩ := bind_eq_ok h
        cases hrefused
      · obtain ⟨_, -, hrefused⟩ := bind_eq_ok h
        cases hrefused
      · rename_i p
        obtain ⟨c₁, hsettle, hread⟩ := bind_eq_ok h
        obtain ⟨hawaited, hreceives⟩ := settle_eq_ok hsettle
        have hgiven : given o none (arg :: rest) = given o (some p) rest := by rw [given, hflag]
        rw [hawaited, hgiven]
        exact (hreceives o).trans (ih hread)
      · rename_i p value
        obtain ⟨c₁, hsettle, hread⟩ := bind_eq_ok h
        obtain ⟨c₂, hassign, hread⟩ := bind_eq_ok hread
        obtain ⟨hawaited, hreceives⟩ := settle_eq_ok hsettle
        have hgiven : given o none (arg :: rest) =
            (if p = o then some value else none).or (given o none rest) := by
          rw [given, hflag, or_ite]
        rw [hawaited, hgiven]
        exact (hreceives o).trans ((receives_assign hassign o).trans (ih hread))
    · rename_i hflag
      split at h
      · rename_i p hawaiting
        have hawaited : awaited pending = some p := hawaiting
        have hheld : held o pending = none := by
          match pending, hawaited with
          | some (_, none), _ => rfl
        have hgiven : given o (some p) (arg :: rest) =
            (if p = o then some arg else none).or (given o none rest) := by
          rw [given, or_ite]
        rw [hheld, hawaited, hgiven]
        exact ih h
      · rename_i hawaiting
        have hgiven : given o none (arg :: rest) = none := by rw [given, hflag]
        split at h
        · cases h
        split at h
        · cases h
        · obtain ⟨_, -, h⟩ := bind_eq_ok h
          obtain ⟨c₁, hsettle, hdone⟩ := bind_eq_ok h
          cases hdone
          obtain ⟨hawaited, hreceives⟩ := settle_eq_ok hsettle
          rw [hawaited, hgiven, Option.or_none]
          exact ⟨(hreceives o).value?_eq, (hreceives o).ne_empty⟩

/-- Each option has the value that the arguments give it, and this is not the empty text. -/
theorem value?_of_read (h : read args = .ok c) (o : ValueOption) :
    c.value? o = given o none args ∧ given o none args ≠ some "" := by
  have hreceives := receives_readFrom h o
  have hnone : value? {} o = none := by cases o <;> rfl
  have hvalue : c.value? o = given o none args := by
    rw [hreceives.value?_eq, hnone]
    rfl
  exact ⟨hvalue, hvalue ▸ hreceives.ne_empty (by simp [hnone])⟩

end DurableCalc.CommandLine
