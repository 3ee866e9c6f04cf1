import DurableCalc.Proofs.Storage.PathNames
import DurableCalc.Proofs.Storage.Directories

/-!
# Plain paths

A path is plain if none of its names goes up or is too long. A plain path that leads to nothing goes
on leading to nothing whichever directories are made on the way to it: they have fewer names than
the path has, and what the path leads to would have as many.
-/

namespace DurableCalc

namespace FileSystem

variable {fs fs' : FileSystem} {place target p : Place} {path : String} {names pieces : List String}
  {level : Nat}

def depth (fs : FileSystem) (path : String) : Nat :=
  (Path.names path.toList).length + (fs.start path).length

theorem depth_le_of_above {upper : String} (h : Path.Above upper path) :
    fs.depth upper ≤ fs.depth path := by
  have hlength := h.1.length_le
  have hstart : fs.start upper = fs.start path := by simp only [start, h.2]
  rw [depth, depth, hstart]
  omega

def leading (pieces : List String) : List String :=
  pieces.filter fun name => name ≠ "" ∧ name ≠ "."

theorem leading_split (path : String) :
    leading ((Path.split path.toList).map String.ofList) =
      (Path.names path.toList).map String.ofList := by
  have hsame : ∀ name : List Char, (String.ofList name ≠ "" ∧ String.ofList name ≠ ".") ↔
      (name ≠ [] ∧ name ≠ ['.']) := by
    intro name
    rw [show ("" : String) = String.ofList [] from rfl, show "." = String.ofList ['.'] from rfl]
    simp only [ne_eq, String.ofList_inj]
  rw [leading, Path.names, List.filter_map]
  simp only [Function.comp_def, hsame]

theorem leading_skip {name : String} (h : (name = "" || name = ".") = true) :
    leading (name :: pieces) = leading pieces :=
  List.filter_cons_of_neg (by simpa [or_iff_not_imp_left] using h)

theorem leading_cons {name : String} (h : ¬ (name = "" || name = ".") = true) :
    leading (name :: pieces) = name :: leading pieces :=
  List.filter_cons_of_pos (by simpa using h)

def PlainNames (names : List String) : Prop :=
  ∀ name ∈ names, name ≠ ".." ∧ (Text.encode name).length ≤ nameLimit

theorem plainNames_split (hplain : Path.Plain path) :
    PlainNames (leading ((Path.split path.toList).map String.ofList)) := by
  rw [leading_split]
  intro name hname
  obtain ⟨chars, hchars, rfl⟩ := List.mem_map.1 hname
  exact ⟨fun hup => (hplain chars hchars).1 (String.ofList_injective hup), (hplain chars hchars).2⟩

theorem length_of_walkFrom (hplain : PlainNames (leading pieces))
    (h : fs.walkFrom place pieces = .ok (.free target)) :
    target.length = (leading pieces).length + place.length := by
  fun_induction walkFrom fs place pieces with
  | case1 | case4 | case6 | case7 | case9 => cases h
  | case2 place name rest hskip ih =>
    rw [leading_skip hskip] at hplain ⊢
    exact ih hplain h
  | case3 place rest hskip ih =>
    rw [leading_cons hskip] at hplain
    exact absurd rfl (hplain _ List.mem_cons_self).1
  | case5 place name rest hskip _ _ _ ih =>
    rw [leading_cons hskip] at hplain ⊢
    have hlength := ih (fun name hname => hplain name (List.mem_cons_of_mem _ hname)) h
    rw [hlength, List.length_cons, List.length_cons]
    omega
  | case8 place name rest hskip _ _ hnode hrest =>
    cases h
    have hnothing : leading rest = [] := List.filter_eq_nil_iff.2 fun piece hpiece => by
      simp [of_decide_eq_true (List.all_eq_true.1 hrest piece hpiece)]
    rw [leading_cons hskip, hnothing, List.length_cons, List.length_cons, List.length_nil]
    omega

theorem node?_makeDirectory (hplain : Path.Plain path) (h : fs.makeDirectory path = .ok fs')
    (hp : fs.depth path < p.length) : fs'.node? p = fs.node? p := by
  unfold makeDirectory at h
  split at h
  · cases h
  · cases h
  rename_i place hwalk
  cases h
  have hfree : fs.walkFrom (fs.start path) ((Path.split path.toList).map String.ofList) =
      .ok (.free place) :=
    (isWalked_of_walk hwalk).walk_eq fs ▸ hwalk
  have hlength := length_of_walkFrom (plainNames_split hplain) hfree
  rw [leading_split, List.length_map] at hlength
  refine node?_set_of_ne _ ?_
  rintro rfl
  rw [hlength] at hp
  exact Nat.lt_irrefl _ hp

theorem node?_makeDirectories (fuel : Nat) (hplain : Path.Plain path)
    (hp : fs.depth path < p.length) :
    (makeDirectories fuel path fs).2.node? p = fs.node? p := by
  induction fuel generalizing path fs with
  | zero => rfl
  | succ fuel ih =>
    unfold makeDirectories
    split
    · rfl
    split
    · exact node?_makeDirectory hplain ‹_› hp
    · split
      · rfl
      rename_i parent hparent
      have habove := (Path.above_of_parent? hparent).1
      have hdeeper : fs.depth parent < p.length := Nat.lt_of_le_of_lt (depth_le_of_above habove) hp
      have hbelow := ih (habove.plain hplain) hdeeper
      have hgains := gains_makeDirectories fuel parent fs
      split
      · rename_i hmade
        rwa [hmade] at hbelow
      rename_i made hmade
      rw [hmade] at hbelow hgains
      split
      · rename_i hmade'
        have hworking : made.working = fs.working := hgains.working_eq
        have hdepth : made.depth path = fs.depth path := by
          rw [depth, depth, start, start, hworking]
        exact (node?_makeDirectory hplain hmade' (hdepth ▸ hp)).trans hbelow
      · exact hbelow
    · rfl

/-- The directories on the way to a plain path are above where it leads. -/
theorem Paved.node?_eq (hplain : Path.Plain path) (hne : Path.names path.toList ≠ [])
    (h : Paved path fs fs') (hp : fs.depth path ≤ p.length) : fs'.node? p = fs.node? p := by
  induction h with
  | refl => rfl
  | @step fs' level hpaved ih =>
    refine Eq.trans ?_ ih
    rw [ensureAbove]
    cases hancestor : Path.ancestor? level (Path.directory path) with
    | none => rfl
    | some upper =>
      obtain ⟨hdirectory, hnames⟩ := Path.above_directory hne
      have hlength := List.length_pos_iff.2 hne
      have habove := Path.above_of_ancestor? hancestor
      have hdepth : fs'.depth upper < fs.depth path := by
        refine Nat.lt_of_le_of_lt (depth_le_of_above habove) ?_
        simp only [depth, start, hpaved.gains.working_eq, hdirectory.2, hnames,
          List.length_dropLast]
        omega
      exact node?_makeDirectories _ (habove.trans hdirectory |>.plain hplain)
        (Nat.lt_of_lt_of_le hdepth hp)

def IsTree (fs : FileSystem) : Prop :=
  ∀ {name place node}, fs.node? (name :: place) = some node → fs.node? place = some .directory

theorem isTree_emptyDirectory : emptyDirectory.IsTree := by
  intro name place node hnode
  rw [node?, if_neg (List.cons_ne_nil _ _)] at hnode
  obtain ⟨before, after, hnodes, -⟩ := List.lookup_eq_some_iff.1 hnode
  have hmem : (name :: place, node) ∈ emptyDirectory.nodes := by simp [hnodes]
  rcases List.mem_pair.1 hmem with heq | heq
  · cases heq
    rfl
  · cases heq
    rfl

theorem IsTree.node?_append (h : fs.IsTree) (hnone : fs.node? place = none) (inner : Place) :
    fs.node? (inner ++ place) = none := by
  induction inner with
  | nil => exact hnone
  | cons name inner ih =>
    cases hnode : fs.node? (name :: inner ++ place) with
    | none => rfl
    | some node =>
      have hdirectory := h hnode
      exact absurd (hdirectory.symm.trans ih) (by simp)

/-- Nothing stands where the names lead, and no file on the way. -/
def Vacant (fs : FileSystem) (place : Place) (names : List String) : Prop :=
  ∀ front, front <+: names → front ≠ [] → ∀ node, fs.node? (front.reverse ++ place) = some node →
    node = .directory ∧ front ≠ names

theorem Vacant.of_gains (h : fs.Vacant place names) (hgains : fs.Gains fs')
    (hdeep : ∀ p, names.length + place.length ≤ p.length → fs'.node? p = fs.node? p) :
    fs'.Vacant place names := by
  intro front hfront hne node hnode
  cases node with
  | file contents => exact h front hfront hne _ (hgains.file_eq hnode)
  | directory =>
    refine ⟨rfl, ?_⟩
    rintro rfl
    have hsame : fs.node? (front.reverse ++ place) = some .directory := by
      rw [← hdeep _ (by simp), hnode]
    exact (h front hfront hne _ hsame).2 rfl

theorem IsTree.vacant (h : fs.IsTree) {name : String} (hnone : fs.node? (name :: place) = none) :
    fs.Vacant place (name :: names) := by
  intro front hfront hne node hnode
  obtain ⟨first, front, rfl⟩ := List.exists_cons_of_ne_nil hne
  obtain ⟨rfl, -⟩ := List.cons_prefix_cons.1 hfront
  rw [List.reverse_cons, List.append_assoc, List.singleton_append, h.node?_append hnone] at hnode
  cases hnode

theorem Vacant.cons {name : String} (hdirectory : fs.node? (name :: place) = some .directory)
    (hnames : names ≠ []) (h : fs.Vacant (name :: place) names) :
    fs.Vacant place (name :: names) := by
  intro front hfront hne node hnode
  obtain ⟨first, front, rfl⟩ := List.exists_cons_of_ne_nil hne
  obtain ⟨rfl, hrest⟩ := List.cons_prefix_cons.1 hfront
  rw [List.reverse_cons, List.append_assoc, List.singleton_append] at hnode
  cases front with
  | nil =>
    refine ⟨Option.some.inj (hnode.symm.trans hdirectory), fun heq => ?_⟩
    exact hnames (List.cons.inj heq).2.symm
  | cons second front =>
    obtain ⟨hnode, hpast⟩ := h _ hrest (List.cons_ne_nil _ _) node hnode
    exact ⟨hnode, fun heq => hpast (List.cons.inj heq).2⟩

/-- A node on the way is a directory, with something vacant in it. -/
theorem Vacant.of_cons {name : String} {node : Node} (h : fs.Vacant place (name :: names))
    (hnode : fs.node? (name :: place) = some node) :
    node = .directory ∧ names ≠ [] ∧ fs.Vacant (name :: place) names := by
  obtain ⟨hdirectory, hpast⟩ := h [name] (List.prefix_append _ _) (List.cons_ne_nil _ _) node hnode
  refine ⟨hdirectory, fun heq => hpast (by rw [heq]), fun front hfront _ node hnode => ?_⟩
  obtain ⟨hnode, hpast⟩ := h (name :: front) (List.cons_prefix_cons.2 ⟨rfl, hfront⟩)
    (List.cons_ne_nil _ _) node (by simpa using hnode)
  exact ⟨hnode, fun heq => hpast (by rw [heq])⟩

theorem walkFrom_of_leading_eq_nil (h : leading pieces = []) :
    fs.walkFrom place pieces = .ok (.at place .directory) := by
  induction pieces with
  | nil => rfl
  | cons name rest ih =>
    by_cases hskip : (name = "" || name = ".") = true
    · rw [walkFrom, if_pos hskip]
      exact ih (leading_skip hskip ▸ h)
    · rw [leading_cons hskip] at h
      cases h

def FindsNothing (result : Except FileFault Walk) : Prop :=
  result = .error .notFound ∨ ∃ target, result = .ok (.free target)

theorem read_eq_notFound_iff : fs.read path = .error .notFound ↔ FindsNothing (fs.walk path) := by
  unfold read FindsNothing
  split <;> simp_all

theorem FindsNothing.leading_ne_nil (h : FindsNothing (fs.walkFrom place pieces)) :
    leading pieces ≠ [] := by
  intro hnil
  rw [walkFrom_of_leading_eq_nil hnil] at h
  simp [FindsNothing] at h

/-- In a tree, a walk that finds nothing has met no file. -/
theorem FindsNothing.vacant (h : FindsNothing (fs.walkFrom place pieces)) (htree : fs.IsTree)
    (hplain : PlainNames (leading pieces)) : fs.Vacant place (leading pieces) := by
  fun_induction walkFrom fs place pieces with
  | case1 | case4 | case6 | case7 => simp [FindsNothing] at h
  | case2 place name rest hskip ih =>
    rw [leading_skip hskip] at hplain ⊢
    exact ih h hplain
  | case3 place rest hskip ih =>
    rw [leading_cons hskip] at hplain
    exact absurd rfl (hplain _ List.mem_cons_self).1
  | case5 place name rest hskip _ _ hdirectory ih =>
    rw [leading_cons hskip] at hplain ⊢
    exact .cons hdirectory h.leading_ne_nil
      (ih h fun name hname => hplain name (List.mem_cons_of_mem _ hname))
  | case8 place name rest hskip _ _ hnode _ | case9 place name rest hskip _ _ hnode _ =>
    rw [leading_cons hskip]
    exact htree.vacant hnode

theorem Vacant.findsNothing (h : fs.Vacant place (leading pieces)) (hne : leading pieces ≠ [])
    (hplain : PlainNames (leading pieces)) : FindsNothing (fs.walkFrom place pieces) := by
  fun_induction walkFrom fs place pieces with
  | case1 place => exact absurd rfl hne
  | case2 place name rest hskip ih =>
    rw [leading_skip hskip] at h hne hplain
    exact ih h hne hplain
  | case3 place rest hskip ih =>
    rw [leading_cons hskip] at hplain
    exact absurd rfl (hplain _ List.mem_cons_self).1
  | case4 place name rest hskip hup hlong =>
    rw [leading_cons hskip] at hplain
    exact absurd (hplain _ List.mem_cons_self).2 (Nat.not_le.2 hlong)
  | case5 place name rest hskip _ _ hdirectory ih =>
    rw [leading_cons hskip] at h hplain
    obtain ⟨-, hmore, hrest⟩ := h.of_cons hdirectory
    exact ih hrest hmore fun name hname => hplain name (List.mem_cons_of_mem _ hname)
  | case6 place name rest hskip _ _ _ hnode _ | case7 place name rest hskip _ _ _ hnode _ =>
    rw [leading_cons hskip] at h
    cases (h.of_cons hnode).1
  | case8 place name => exact .inr ⟨name :: place, rfl⟩
  | case9 => exact .inl rfl

theorem read_of_paved (htree : fs.IsTree) (hplain : Path.Plain path)
    (hread : fs.read path = .error .notFound) (hpaved : Paved path fs fs') :
    fs'.read path = .error .notFound := by
  rw [read_eq_notFound_iff] at hread ⊢
  rcases walk_cases path with hwalked | ⟨fault, hrefused⟩
  case inr => rwa [hrefused] at hread ⊢
  rw [hwalked.walk_eq] at hread ⊢
  have hnames := plainNames_split hplain
  have hne := hread.leading_ne_nil
  have hstart : fs'.start path = fs.start path := by rw [start, start, hpaved.gains.working_eq]
  rw [hstart]
  refine ((hread.vacant htree hnames).of_gains hpaved.gains fun p hp => ?_).findsNothing hne hnames
  rw [leading_split] at hne hp
  rw [List.length_map] at hp
  exact hpaved.node?_eq hplain (fun hnil => hne (by rw [hnil]; rfl)) hp

end FileSystem

end DurableCalc
