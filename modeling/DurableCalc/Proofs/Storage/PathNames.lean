import DurableCalc.Storage.FileSystem
import Mathlib.Data.List.TakeWhile

/-!
# The names of a path

The parent of a path is told from its text alone. Here it is told from the names in that text: the
parent has all of them but the last, and is walked from the same place.
-/

namespace DurableCalc

namespace Text

variable {separator : Char} {cs front name : List Char}

theorem splitOn_ne_nil (separator : Char) (cs : List Char) : splitOn separator cs ≠ [] := by
  cases cs with
  | nil => exact List.cons_ne_nil _ _
  | cons c rest =>
    rw [splitOn]
    split
    · exact List.cons_ne_nil _ _
    · split <;> exact List.cons_ne_nil _ _

theorem splitOn_separator (separator : Char) (cs : List Char) :
    splitOn separator (separator :: cs) = [] :: splitOn separator cs := by
  rw [splitOn]
  cases hrest : splitOn separator cs with
  | nil => exact absurd hrest (splitOn_ne_nil _ _)
  | cons piece pieces => exact if_pos rfl

theorem splitOn_of_not_mem (h : separator ∉ cs) : splitOn separator cs = [cs] := by
  induction cs with
  | nil => rfl
  | cons c rest ih =>
    obtain ⟨hc, hrest⟩ := not_or.1 (mt List.mem_cons.2 h)
    rw [splitOn, ih hrest]
    exact if_neg (Ne.symm hc)

theorem splitOn_append (front : List Char) (h : separator ∉ name) :
    splitOn separator (front ++ separator :: name) = splitOn separator front ++ [name] := by
  induction front with
  | nil =>
    rw [List.nil_append, splitOn_separator, splitOn_of_not_mem h]
    rfl
  | cons c front ih =>
    rw [List.cons_append, splitOn, splitOn, ih]
    cases hfront : splitOn separator front with
    | nil => exact absurd hfront (splitOn_ne_nil _ _)
    | cons piece pieces =>
      by_cases hc : c = separator <;> simp [hc]

end Text

namespace Path

/-- The names of a path that lead on. An empty name and a `.` do not. -/
def names (path : List Char) : List (List Char) :=
  (split path).filter fun name => name ≠ [] ∧ name ≠ ['.']

/-- No name of the path goes up, and none is too long to be one of a file. -/
def Plain (path : String) : Prop :=
  ∀ name ∈ names path.toList,
    name ≠ ['.', '.'] ∧ (Text.encode (String.ofList name)).length ≤ FileSystem.nameLimit

instance : DecidablePred Plain := fun path =>
  inferInstanceAs (Decidable (∀ name ∈ names path.toList,
    name ≠ ['.', '.'] ∧ (Text.encode (String.ofList name)).length ≤ FileSystem.nameLimit))

variable {path parent body rest front name : List Char}

theorem names_slash (path : List Char) : names ('/' :: path) = names path := by
  rw [names, split, Text.splitOn_separator]
  exact List.filter_cons_of_neg (by simp)

theorem names_of_not_mem (h : '/' ∉ name) :
    names name = if name = [] ∨ name = ['.'] then [] else [name] := by
  rw [names, split, Text.splitOn_of_not_mem h]
  by_cases hidle : name = [] ∨ name = ['.']
  · rw [if_pos hidle]
    rcases hidle with rfl | rfl <;> rfl
  · rw [if_neg hidle]
    exact List.filter_cons_of_pos (by simpa using hidle)

theorem names_append (front : List Char) (h : '/' ∉ name) :
    names (front ++ '/' :: name) = names front ++ names name := by
  simp only [names, split, Text.splitOn_append front h, Text.splitOn_of_not_mem h,
    List.filter_append]

theorem splitLast_cases (path : List Char) :
    '/' ∉ path ∧ splitLast path = (none, path) ∨
      ∃ front name, '/' ∉ name ∧ path = front ++ '/' :: name ∧
        splitLast path = (some front, name) := by
  have hsplit := List.takeWhile_append_dropWhile (p := (· ≠ '/')) (l := path.reverse)
  have hname : '/' ∉ (path.reverse.takeWhile (· ≠ '/')).reverse := fun hmem => by
    simpa using List.mem_takeWhile_imp (List.mem_reverse.1 hmem)
  rw [splitLast]
  cases hdrop : path.reverse.dropWhile (· ≠ '/') with
  | nil =>
    rw [hdrop, List.append_nil] at hsplit
    have hwhole : (path.reverse.takeWhile (· ≠ '/')).reverse = path := by
      rw [hsplit, List.reverse_reverse]
    exact .inl ⟨hwhole ▸ hname, by rw [hwhole]⟩
  | cons c front =>
    have hc : c = '/' := by
      have hhead := List.head?_dropWhile_not (· ≠ '/') path.reverse
      rw [hdrop] at hhead
      simpa using hhead
    rw [hdrop, hc] at hsplit
    refine .inr ⟨front.reverse, _, hname, ?_, rfl⟩
    calc path = path.reverse.reverse := (List.reverse_reverse path).symm
      _ = (path.reverse.takeWhile (· ≠ '/') ++ '/' :: front).reverse := by rw [hsplit]
      _ = front.reverse ++ '/' :: (path.reverse.takeWhile (· ≠ '/')).reverse := by
        rw [List.reverse_append, List.reverse_cons, List.append_assoc, List.singleton_append]

theorem names_splitLast (path : List Char) :
    names path = names ((splitLast path).1.getD []) ++ names (splitLast path).2 ∧
      '/' ∉ (splitLast path).2 ∧ (splitLast path).1.getD [] <+: path := by
  rcases splitLast_cases path with ⟨hname, heq⟩ | ⟨front, name, hname, rfl, heq⟩
  · rw [heq]
    exact ⟨rfl, hname, List.nil_prefix⟩
  · rw [heq]
    exact ⟨names_append front hname, hname, List.prefix_append _ _⟩

theorem length_splitLast (h : path ≠ []) :
    ((splitLast path).1.getD []).length < path.length := by
  rcases splitLast_cases path with ⟨-, heq⟩ | ⟨front, name, -, rfl, heq⟩
  · rw [heq]
    exact List.length_pos_iff.2 h
  · rw [heq, List.length_append, List.length_cons]
    exact Nat.lt_add_of_pos_right (Nat.succ_pos _)

/-- What is dropped has no names, and what is left ends in one or is nothing. -/
theorem dropIdle_spec {fuel : Nat} (hfuel : body.length ≤ fuel) :
    dropIdle fuel body <+: body ∧ names (dropIdle fuel body) = names body ∧
      (dropIdle fuel body ≠ [] →
        names ((splitLast (dropIdle fuel body)).1.getD []) = (names body).dropLast) := by
  induction fuel generalizing body with
  | zero =>
    obtain rfl := List.length_eq_zero_iff.1 (Nat.le_zero.1 hfuel)
    exact ⟨List.prefix_rfl, rfl, fun h => absurd rfl h⟩
  | succ fuel ih =>
    rw [dropIdle]
    split
    · rename_i hempty
      obtain rfl := List.isEmpty_iff.1 hempty
      exact ⟨List.prefix_rfl, rfl, fun h => absurd rfl h⟩
    rename_i hne
    obtain ⟨hnames, hslash, hinit⟩ := names_splitLast body
    have hshorter := length_splitLast (mt List.isEmpty_iff.2 hne)
    rw [names_of_not_mem hslash] at hnames
    dsimp only
    split
    · rename_i hidle
      have hidle' : (splitLast body).2 = [] ∨ (splitLast body).2 = ['.'] := by simpa using hidle
      rw [if_pos hidle', List.append_nil] at hnames
      have hfuel' : ((splitLast body).1.getD []).length ≤ fuel := by omega
      obtain ⟨hinit', hnames', hlast⟩ := ih hfuel'
      rw [hnames]
      exact ⟨hinit'.trans hinit, hnames', hlast⟩
    · rename_i hidle
      have hidle' : ¬ ((splitLast body).2 = [] ∨ (splitLast body).2 = ['.']) := by simpa using hidle
      rw [if_neg hidle'] at hnames
      exact ⟨List.prefix_rfl, rfl, fun _ => by rw [hnames, List.dropLast_concat]⟩

/-- What stands before the body has no names, and tells alone whether the path is one from the
root. -/
theorem anchor_spec (path : List Char) : path = (anchor path).1 ++ (anchor path).2 ∧
    ∀ rest, rest <+: (anchor path).2 → names ((anchor path).1 ++ rest) = names rest ∧
      (((anchor path).1 ++ rest).head? = some '/' ↔ path.head? = some '/') := by
  fun_cases anchor path with
  | case1 body => exact ⟨rfl, fun rest _ => ⟨names_slash rest, by simp⟩⟩
  | case2 =>
    refine ⟨rfl, fun rest hrest => ?_⟩
    obtain rfl := List.prefix_nil.1 hrest
    exact ⟨rfl, by simp⟩
  | case3 body =>
    refine ⟨rfl, fun rest hrest => ⟨?_, by simp⟩⟩
    rcases List.prefix_cons_iff.1 hrest with rfl | ⟨rest, rfl, -⟩
    · rfl
    · rw [names_slash, names, split, List.singleton_append, Text.splitOn, Text.splitOn_separator]
      simp [names, split]
  | case4 _ hslash =>
    refine ⟨rfl, fun rest hrest => ⟨rfl, ?_⟩⟩
    have hpath : path.head? ≠ some '/' := by
      intro hhead
      obtain ⟨body, hbody⟩ := List.head?_eq_some_iff.1 hhead
      exact hslash body hbody
    have hrest' : rest.head? ≠ some '/' := by
      intro hhead
      obtain ⟨tail, rfl⟩ := hrest
      exact hpath (by rw [List.head?_append, hhead]; rfl)
    exact iff_of_false hrest' hpath

theorem names_anchor (path : List Char) : names path = names (anchor path).2 := by
  obtain ⟨hpath, hanchor⟩ := anchor_spec path
  exact (congrArg names hpath).trans (hanchor _ List.prefix_rfl).1

theorem names_of_parentChars? (h : parentChars? path = some parent) :
    names parent = (names path).dropLast ∧ (parent.head? = some '/' ↔ path.head? = some '/') ∧
      parent <+: path := by
  obtain ⟨hpath, hanchor⟩ := anchor_spec path
  have hwhole := names_anchor path
  obtain ⟨hinit, hnames, hlast⟩ := dropIdle_spec (Nat.le_refl (anchor path).2.length)
  unfold parentChars? at h
  dsimp only at h
  split at h
  · rename_i hempty
    rw [List.isEmpty_iff.1 hempty] at hnames
    split at h
    · rename_i hlead
      cases h
      have hhead := (hanchor [] List.nil_prefix).2
      rw [hlead] at hhead
      rw [hwhole, ← hnames]
      exact ⟨rfl, by simpa using hhead, List.nil_prefix⟩
    · cases h
  · rename_i hbody
    cases h
    obtain ⟨-, hslash, hfront⟩ := names_splitLast (dropIdle (anchor path).2.length (anchor path).2)
    obtain ⟨hinit', hnames', -⟩ := dropIdle_spec (Nat.le_refl
      ((splitLast (dropIdle (anchor path).2.length (anchor path).2)).1.getD []).length)
    have hinner := hinit'.trans (hfront.trans hinit)
    obtain ⟨hkept, hhead⟩ := hanchor _ hinner
    rw [hkept, hnames', hwhole]
    refine ⟨hlast (mt List.isEmpty_iff.2 hbody), hhead, ?_⟩
    have hwithin := (List.prefix_append_right_inj (anchor path).1).2 hinner
    rwa [← hpath] at hwithin

theorem names_of_parentChars?_none (h : parentChars? path = none) : names path = [] := by
  obtain ⟨-, hnames, -⟩ := dropIdle_spec (Nat.le_refl (anchor path).2.length)
  unfold parentChars? at h
  dsimp only at h
  split at h
  · rename_i hempty
    rw [List.isEmpty_iff.1 hempty] at hnames
    rw [names_anchor, ← hnames]
    rfl
  · cases h

variable {upper lower path : String} {level : Nat}

/-- A path whose names are the first ones of another path, both being walked from one place. -/
def Above (upper path : String) : Prop :=
  names upper.toList <+: names path.toList ∧
    (upper.toList.head? = some '/' ↔ path.toList.head? = some '/')

theorem Above.refl (path : String) : Above path path :=
  ⟨List.prefix_rfl, Iff.rfl⟩

theorem Above.trans (h : Above upper lower) (h' : Above lower path) : Above upper path :=
  ⟨h.1.trans h'.1, h.2.trans h'.2⟩

theorem Above.plain (h : Above upper path) (hplain : Plain path) : Plain upper :=
  fun name hname => hplain name (h.1.subset hname)

theorem above_of_parent? {parent : String} (h : parent? path = some parent) :
    Above parent path ∧ names parent.toList = (names path.toList).dropLast ∧
      parent.toList <+: path.toList := by
  obtain ⟨chars, hchars, rfl⟩ := Option.map_eq_some_iff.1 h
  obtain ⟨hnames, hhead, hwithin⟩ := names_of_parentChars? hchars
  rw [Above, String.toList_ofList, hnames]
  exact ⟨⟨List.dropLast_prefix _, hhead⟩, rfl, hwithin⟩

theorem above_of_ancestor? (h : ancestor? level path = some upper) : Above upper path := by
  induction level generalizing path with
  | zero =>
    cases h
    exact .refl _
  | succ level ih =>
    obtain ⟨parent, hparent, hupper⟩ := Option.bind_eq_some_iff.1 h
    exact (ih hupper).trans (above_of_parent? hparent).1

/-- The directory of a path that has names is above it, with the last name missing. -/
theorem above_directory (hne : names path.toList ≠ []) : Above (directory path) path ∧
    names (directory path).toList = (names path.toList).dropLast := by
  rw [directory]
  cases hparent : parent? path with
  | none =>
    rw [parent?, Option.map_eq_none_iff] at hparent
    exact absurd (names_of_parentChars?_none hparent) hne
  | some parent =>
    obtain ⟨habove, hnames, -⟩ := above_of_parent? hparent
    dsimp only
    by_cases hempty : parent.isEmpty
    · obtain rfl := String.isEmpty_iff.1 hempty
      rw [if_pos hempty]
      have hhead : path.toList.head? ≠ some '/' := fun hhead =>
        absurd (habove.2.2 hhead) (by decide)
      exact ⟨⟨List.nil_prefix, iff_of_false (by decide) hhead⟩, hnames⟩
    · rw [if_neg hempty]
      exact ⟨habove, hnames⟩

/-- The directory of a path is spelled by a part of the path, or it is the working directory. -/
theorem directory_cases (path : String) : directory path = "." ∨
    (directory path).isEmpty = false ∧ (directory path).toList <+: path.toList := by
  rw [directory]
  cases hparent : parent? path with
  | none => exact .inl rfl
  | some parent =>
    dsimp only
    by_cases hempty : parent.isEmpty
    · exact .inl (if_pos hempty)
    · rw [if_neg hempty]
      exact .inr ⟨Bool.eq_false_iff.2 hempty, (above_of_parent? hparent).2.2⟩

end Path

end DurableCalc
