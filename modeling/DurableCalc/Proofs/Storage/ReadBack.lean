import DurableCalc.Storage.Vault
import Mathlib.Data.List.Basic

/-!
# What is put into a slot is read back

A replacement that succeeds leaves a slot in which the new blob is found, be it memory or a file.
For a file this is a walk along its path: the rename changes nodes only where no directory stood, so
that the path leads the same way as before, and to the file that was moved there.
-/

namespace DurableCalc

namespace Text

/-- The last piece is empty only behind a separator, or where there is nothing to split. -/
theorem getLast?_of_splitOn {separator : Char} {cs : List Char}
    (h : (splitOn separator cs).getLast? = some []) : cs = [] ∨ cs.getLast? = some separator := by
  induction cs with
  | nil => exact .inl rfl
  | cons c rest ih =>
    right
    rw [splitOn] at h
    cases hrest : splitOn separator rest with
    | nil =>
      rw [hrest] at h
      cases h
    | cons piece pieces =>
      rw [hrest] at h ih
      dsimp only at h
      by_cases hc : c = separator
      · rw [if_pos hc, List.getLast?_cons_cons] at h
        rcases ih h with rfl | hlast
        · rw [hc]
          rfl
        · rw [List.getLast?_cons, hlast]
          rfl
      · rw [if_neg hc] at h
        cases pieces with
        | nil => cases h
        | cons next pieces =>
          rw [List.getLast?_cons_cons] at h ih
          rcases ih h with rfl | hlast
          · cases hrest
          · rw [List.getLast?_cons, hlast]
            rfl

end Text

namespace FileSystem

variable {fs fs' : FileSystem} {place target temporary : Place} {path : String} {contents : Bytes}

theorem lookup_filter_ne {nodes : List (Place × Node)} {p q : Place} (h : p ≠ q) :
    (nodes.filter fun entry => entry.1 != q).lookup p = nodes.lookup p := by
  induction nodes with
  | nil => rfl
  | cons entry nodes ih =>
    obtain ⟨r, node⟩ := entry
    by_cases hq : r = q
    · have hp : (p == r) = false := by simpa [hq] using h
      simp [hq, ih, List.lookup_cons, hq ▸ hp]
    · simp [hq, List.lookup_cons, ih]

theorem node?_set_self (node : Node) (h : place ≠ []) :
    (fs.set place node).node? place = some node := by
  simp [node?, set, h]

theorem node?_set_of_ne (node : Node) (h : place ≠ target) :
    (fs.set target node).node? place = fs.node? place := by
  have hne : (place == target) = false := by simpa using h
  simp [node?, set, List.lookup_cons, hne, lookup_filter_ne h]

theorem node?_remove_of_ne (h : place ≠ target) :
    (fs.remove target).node? place = fs.node? place := by
  simp [node?, remove, lookup_filter_ne h]

/-- A walk that ends at a file or at a free place ends where the nodes say so. -/
theorem node?_of_walkFrom {names : List String} {w : Walk} (h : fs.walkFrom place names = .ok w) :
    (∀ target contents, w = .at target (.file contents) →
      fs.node? target = some (.file contents)) ∧
    ∀ target, w = .free target → fs.node? target = none := by
  fun_induction walkFrom fs place names with
  | case1 place =>
    cases h
    exact ⟨by rintro _ _ ⟨⟩, by rintro _ ⟨⟩⟩
  | case2 place name rest hskip ih => exact ih h
  | case3 place rest _ ih => exact ih h
  | case4 => cases h
  | case5 place name rest _ _ _ _ ih => exact ih h
  | case6 place name rest _ _ _ contents hnode hrest =>
    cases h
    exact ⟨by rintro _ _ ⟨⟩; exact hnode, by rintro _ ⟨⟩⟩
  | case7 => cases h
  | case8 place name rest _ _ _ hnode hrest =>
    cases h
    exact ⟨by rintro _ _ ⟨⟩, by rintro _ ⟨⟩; exact hnode⟩
  | case9 => cases h

/-- A walk through directories goes on from the one where it has got to. -/
theorem walkFrom_append {front : List String} (rest : List String)
    (h : fs.walkFrom place front = .ok (.at target .directory)) :
    fs.walkFrom place (front ++ rest) = fs.walkFrom target rest := by
  fun_induction walkFrom fs place front with
  | case1 place =>
    cases h
    rfl
  | case2 place name front hskip ih =>
    rw [List.cons_append, walkFrom, if_pos hskip]
    exact ih h
  | case3 place front hskip ih =>
    rw [List.cons_append, walkFrom, if_neg hskip, if_pos rfl]
    exact ih h
  | case5 place name front hskip hup hlong hnode ih =>
    rw [List.cons_append, walkFrom, if_neg hskip, if_neg hup, if_neg hlong, hnode]
    exact ih h
  | case4 | case6 | case7 | case8 | case9 => cases h

theorem walkFrom_directory (hdirectory : ∀ p, fs.node? p = some .directory →
      fs'.node? p = some .directory) {names : List String}
    (h : fs.walkFrom place names = .ok (.at target .directory)) :
    fs'.walkFrom place names = .ok (.at target .directory) := by
  fun_induction walkFrom fs place names with
  | case1 place => exact h
  | case2 place name rest hskip ih =>
    rw [walkFrom, if_pos hskip]
    exact ih h
  | case3 place rest hskip ih =>
    rw [walkFrom, if_neg hskip, if_pos rfl]
    exact ih h
  | case5 place name rest hskip hup hlong hnode ih =>
    rw [walkFrom, if_neg hskip, if_neg hup, if_neg hlong, hdirectory _ hnode]
    exact ih h
  | case4 | case6 | case7 | case8 | case9 => cases h

structure IsEntry (name : String) : Prop where
  leads : ¬ (name = "" || name = ".") = true
  ne_up : name ≠ ".."
  length_le : ¬ nameLimit < (Text.encode name).length

def entry (fs : FileSystem) (place : Place) : Walk :=
  match fs.node? place with
  | some node => .at place node
  | none => .free place

theorem walkFrom_entry {name : String} (hname : IsEntry name) :
    fs.walkFrom place [name] = .ok (fs.entry (name :: place)) := by
  rw [walkFrom, if_neg hname.leads, if_neg hname.ne_up, if_neg hname.length_le, entry]
  cases fs.node? (name :: place) with
  | none => rfl
  | some node => cases node <;> rfl

/-- A walk that ends at a file, or at a free place without a slash behind it, is one through
directories up to the last name. -/
theorem exists_front_of_walkFrom {names : List String} {w : Walk}
    (h : fs.walkFrom place names = .ok w)
    (hend : (∃ contents, w = .at target (.file contents)) ∨
      w = .free target ∧ names.getLast? ≠ some "") :
    ∃ front name inner, names = front ++ [name] ∧ IsEntry name ∧ target = name :: inner ∧
      fs.walkFrom place front = .ok (.at inner .directory) := by
  have htail {name : String} {rest : List String} (hend : (∃ contents, w = .at target
      (.file contents)) ∨ w = .free target ∧ (name :: rest).getLast? ≠ some "") :
      (∃ contents, w = .at target (.file contents)) ∨
        w = .free target ∧ rest.getLast? ≠ some "" := by
    refine hend.imp_right fun ⟨hfree, hlast⟩ => ⟨hfree, fun hrest => hlast ?_⟩
    rw [List.getLast?_cons, hrest]
    rfl
  fun_induction walkFrom fs place names with
  | case1 place =>
    cases h
    simp at hend
  | case2 place name rest hskip ih =>
    obtain ⟨front, last, inner, rfl, hlast, rfl, hfront⟩ := ih h (htail hend)
    refine ⟨name :: front, last, inner, rfl, hlast, rfl, ?_⟩
    rw [walkFrom, if_pos hskip, hfront]
  | case3 place rest hskip ih =>
    obtain ⟨front, last, inner, rfl, hlast, rfl, hfront⟩ := ih h (htail hend)
    refine ⟨".." :: front, last, inner, rfl, hlast, rfl, ?_⟩
    rw [walkFrom, if_neg hskip, if_pos rfl, hfront]
  | case5 place name rest hskip hup hlong hnode ih =>
    obtain ⟨front, last, inner, rfl, hlast, rfl, hfront⟩ := ih h (htail hend)
    refine ⟨name :: front, last, inner, rfl, hlast, rfl, ?_⟩
    rw [walkFrom, if_neg hskip, if_neg hup, if_neg hlong, hnode, hfront]
  | case6 place name rest hskip hup hlong old hnode hrest =>
    cases h
    obtain rfl := List.isEmpty_iff.1 hrest
    rcases hend with ⟨_, ⟨⟩⟩ | ⟨⟨⟩, -⟩
    exact ⟨[], name, place, rfl, ⟨hskip, hup, hlong⟩, rfl, rfl⟩
  | case8 place name rest hskip hup hlong hnode hrest =>
    cases h
    rcases hend with ⟨_, ⟨⟩⟩ | ⟨⟨⟩, hlast⟩
    have hempty : rest = [] := by
      by_contra hne
      apply hlast
      have hmem := List.getLast_mem hne
      have hblank := List.all_eq_true.1 hrest _ hmem
      rw [List.getLast?_cons, List.getLast?_eq_some_getLast hne]
      simpa using hblank
    exact ⟨[], name, place, by rw [hempty]; rfl, ⟨hskip, hup, hlong⟩, rfl, rfl⟩
  | case4 | case7 | case9 => cases h

/-- Where the directories stay, such a walk ends at what then stands in the same place. -/
theorem walkFrom_of_directories
    (hdirectory : ∀ p, fs.node? p = some .directory → fs'.node? p = some .directory)
    {names : List String} {w : Walk} (h : fs.walkFrom place names = .ok w)
    (hend : (∃ contents, w = .at target (.file contents)) ∨
      w = .free target ∧ names.getLast? ≠ some "") :
    fs'.walkFrom place names = .ok (fs'.entry target) := by
  obtain ⟨front, name, inner, rfl, hname, rfl, hfront⟩ := exists_front_of_walkFrom h hend
  rw [walkFrom_append _ (walkFrom_directory hdirectory hfront), walkFrom_entry hname]

def start (fs : FileSystem) (path : String) : Place :=
  if path.toList.head? = some '/' then [] else fs.working

structure IsWalked (path : String) : Prop where
  isEmpty_eq : path.isEmpty = false
  contains_eq : path.toList.contains '\x00' = false
  length_le : (Text.encode path).length ≤ pathLimit

theorem IsWalked.walk_eq (h : IsWalked path) (fs : FileSystem) :
    fs.walk path =
      fs.walkFrom (fs.start path) ((Path.split path.toList).map String.ofList) := by
  rw [walk, h.isEmpty_eq, h.contains_eq, if_neg Bool.false_ne_true, if_neg Bool.false_ne_true,
    if_neg (Nat.not_lt.2 h.length_le)]
  rfl

theorem walk_cases (path : String) :
    IsWalked path ∨ ∃ fault, ∀ fs : FileSystem, fs.walk path = .error fault := by
  unfold walk
  split
  · exact .inr ⟨_, fun _ => rfl⟩
  rename_i hempty
  split
  · exact .inr ⟨_, fun _ => rfl⟩
  rename_i hnull
  split
  · exact .inr ⟨_, fun _ => rfl⟩
  rename_i hlong
  exact .inl ⟨Bool.eq_false_iff.2 hempty, Bool.eq_false_iff.2 hnull, Nat.not_lt.1 hlong⟩

theorem isWalked_of_walk {w : Walk} (h : fs.walk path = .ok w) : IsWalked path := by
  rcases walk_cases path with hwalked | ⟨fault, hrefused⟩
  · exact hwalked
  · rw [hrefused] at h
    cases h

theorem getLast?_split (hpath : IsWalked path) (hslash : path.toList.getLast? ≠ some '/') :
    ((Path.split path.toList).map String.ofList).getLast? ≠ some "" := by
  intro h
  rw [List.getLast?_map, Option.map_eq_some_iff] at h
  obtain ⟨piece, hpiece, hblank⟩ := h
  obtain rfl : piece = [] := by simpa using hblank
  rcases Text.getLast?_of_splitOn hpiece with hnil | hlast
  · have hempty := hpath.isEmpty_eq
    rw [String.toList_eq_nil_iff.1 hnil] at hempty
    cases hempty
  · exact hslash hlast

/-- Where a path leads to a file, or to a place where one may be put. -/
def Receives (fs : FileSystem) (path : String) (target : Place) : Prop :=
  (∃ old, fs.walk path = .ok (.at target (.file old))) ∨
    fs.walk path = .ok (.free target) ∧ path.toList.getLast? ≠ some '/'

theorem node?_of_walk {w : Walk} (h : fs.walk path = .ok w) :
    (∀ target contents, w = .at target (.file contents) →
      fs.node? target = some (.file contents)) ∧
    ∀ target, w = .free target → fs.node? target = none := by
  rw [(isWalked_of_walk h).walk_eq] at h
  exact node?_of_walkFrom h

theorem Receives.node?_ne (h : fs.Receives path target) : fs.node? target ≠ some .directory := by
  rcases h with ⟨old, hwalk⟩ | ⟨hwalk, -⟩
  · simp [(node?_of_walk hwalk).1 target old rfl]
  · simp [(node?_of_walk hwalk).2 target rfl]

theorem Receives.walkFrom_eq (h : fs.Receives path target) : IsWalked path ∧
    ∃ w, fs.walkFrom (fs.start path) ((Path.split path.toList).map String.ofList) = .ok w ∧
      ((∃ contents, w = .at target (.file contents)) ∨
        w = .free target ∧ ((Path.split path.toList).map String.ofList).getLast? ≠ some "") := by
  rcases h with ⟨old, hwalk⟩ | ⟨hwalk, hslash⟩
  · have hpath := isWalked_of_walk hwalk
    rw [hpath.walk_eq] at hwalk
    exact ⟨hpath, _, hwalk, .inl ⟨old, rfl⟩⟩
  · have hpath := isWalked_of_walk hwalk
    rw [hpath.walk_eq] at hwalk
    exact ⟨hpath, _, hwalk, .inr ⟨rfl, getLast?_split hpath hslash⟩⟩

theorem Receives.walk_eq (h : fs.Receives path target) (hworking : fs'.working = fs.working)
    (hdirectory : ∀ p, fs.node? p = some .directory → fs'.node? p = some .directory) :
    fs'.walk path = .ok (fs'.entry target) := by
  obtain ⟨hpath, w, hwalk, hend⟩ := h.walkFrom_eq
  have hstart : fs'.start path = fs.start path := by rw [start, start, hworking]
  rw [hpath.walk_eq, hstart]
  exact walkFrom_of_directories hdirectory hwalk hend

theorem Receives.walk (h : fs.Receives path target) (hworking : fs'.working = fs.working)
    (hdirectory : ∀ p, fs.node? p = some .directory → fs'.node? p = some .directory)
    (htarget : fs'.node? target = some (.file contents)) :
    fs'.walk path = .ok (.at target (.file contents)) := by
  rw [h.walk_eq hworking hdirectory, entry, htarget]

theorem read_of_walk (h : fs.walk path = .ok (.at target (.file contents))) :
    fs.read path = .ok contents := by
  rw [read, h]

theorem exists_walk_of_read (h : fs.read path = .ok contents) :
    ∃ place, fs.walk path = .ok (.at place (.file contents)) := by
  unfold read at h
  split at h
  · cases h
  · cases h
  · cases h
  · rename_i place _ hwalk
    cases h
    exact ⟨place, hwalk⟩

theorem rename_eq_ok (hsource : fs.node? temporary = some (.file contents))
    (h : fs.rename temporary path = .ok fs') :
    ∃ target, fs' = (fs.remove temporary).set target (.file contents) ∧
      fs.Receives path target := by
  unfold rename at h
  rw [hsource] at h
  cases hwalk : fs.walk path with
  | error fault =>
    rw [hwalk] at h
    cases h
  | ok w =>
    rw [hwalk] at h
    cases w with
    | free target =>
      dsimp only at h
      by_cases hslash : path.toList.getLast? = some '/'
      · rw [if_pos hslash] at h
        cases h
      · rw [if_neg hslash] at h
        cases h
        exact ⟨target, rfl, .inr ⟨hwalk, hslash⟩⟩
    | «at» target node =>
      cases node with
      | directory => cases h
      | file old =>
        cases h
        exact ⟨target, rfl, .inl ⟨old, hwalk⟩⟩

theorem Receives.walk_moved (h : fs.Receives path target)
    (hsource : fs.node? temporary = some (.file contents)) :
    ((fs.remove temporary).set target (.file contents)).walk path =
      .ok (.at target (.file contents)) := by
  have htarget : target ≠ [] := by
    rintro rfl
    exact h.node?_ne rfl
  refine h.walk rfl (fun p hp => ?_) (node?_set_self _ htarget)
  have hne : p ≠ target := by
    rintro rfl
    exact h.node?_ne hp
  have hne' : p ≠ temporary := by
    rintro rfl
    rw [hp] at hsource
    cases hsource
  rw [node?_set_of_ne _ hne, node?_remove_of_ne hne', hp]

theorem read_rename (hsource : fs.node? temporary = some (.file contents))
    (h : fs.rename temporary path = .ok fs') : fs'.read path = .ok contents := by
  obtain ⟨target, rfl, htarget⟩ := rename_eq_ok hsource h
  exact read_of_walk (htarget.walk_moved hsource)

theorem createTemporary_eq_ok {naming : Naming}
    (h : fs.createTemporary naming path = .ok (temporary, fs')) :
    ∃ place, temporary = naming.name fs place :: place ∧ fs' = fs.set temporary (.file []) := by
  unfold createTemporary at h
  repeat' split at h
  all_goals cases h
  exact ⟨_, rfl, rfl⟩

theorem set_set (fs : FileSystem) (place : Place) (node node' : Node) :
    (fs.set place node).set place node' = fs.set place node' := by
  simp [set]

theorem remove_set (hfree : fs.node? place = none) (node : Node) :
    (fs.set place node).remove place = fs := by
  have hplace : place ≠ [] := by
    rintro rfl
    cases hfree
  rw [node?, if_neg hplace, List.lookup_eq_none_iff] at hfree
  have hnodes : (fs.nodes.filter fun entry => entry.1 != place) = fs.nodes :=
    List.filter_eq_self.2 fun entry hentry => by
      rw [bne_iff_ne]
      exact (bne_iff_ne.1 (hfree entry hentry)).symm
  simp [remove, set, hnodes]

end FileSystem

namespace FileSlot

variable {naming : FileSystem.Naming} {refusal : Option (Stage × String)} {path : String}
  {blob : Bytes} {fs fs' : FileSystem}

theorem makeDirectories_cases (naming : FileSystem.Naming) (refusal : Option (Stage × String))
    (path : String) (fs : FileSystem) :
    (∃ reason level, (callsThrough naming refusal).makeDirectories path fs =
      (.error reason, fs.ensureAbove level path)) ∨
    (callsThrough naming refusal).makeDirectories path fs =
      (.ok (), (fs.ensureDirectory path).2) := by
  have hmade : (∃ reason level, ((fs.ensureDirectory path).1.mapError FileFault.message,
        (fs.ensureDirectory path).2) = (.error reason, fs.ensureAbove level path)) ∨
      ((fs.ensureDirectory path).1.mapError FileFault.message, (fs.ensureDirectory path).2) =
        (.ok (), (fs.ensureDirectory path).2) := by
    cases (fs.ensureDirectory path).1 with
    | error fault => exact .inl ⟨fault.message, 0, rfl⟩
    | ok _ => exact .inr rfl
  cases refusal with
  | none => exact hmade
  | some refusal =>
    obtain ⟨stage, reason⟩ := refusal
    cases stage with
    | createDirectory level => exact .inl ⟨reason, level + 1, rfl⟩
    | _ => exact hmade

theorem createTemporary_cases (naming : FileSystem.Naming) (refusal : Option (Stage × String))
    (path : String) (fs : FileSystem) :
    (∃ reason, (callsThrough naming refusal).createTemporary path fs = (.error reason, fs)) ∨
    ∃ place, (callsThrough naming refusal).createTemporary path fs =
      (.ok (naming.name fs place :: place), fs.set (naming.name fs place :: place) (.file [])) := by
  cases hcreate : fs.createTemporary naming path with
  | error fault =>
    have hcall : (callsThrough naming refusal).createTemporary path fs =
        unlessRefused refusal .createTemporary fs (.error fault.message, fs) := by
      simp only [callsThrough, hcreate]
    rw [hcall]
    exact .inl (unlessRefused_error refusal .createTemporary fs fault.message)
  | ok created =>
    obtain ⟨temporary, fs'⟩ := created
    obtain ⟨place, rfl, rfl⟩ := FileSystem.createTemporary_eq_ok hcreate
    have hcall : (callsThrough naming refusal).createTemporary path fs =
        unlessRefused refusal .createTemporary fs (.ok (naming.name fs place :: place),
          fs.set (naming.name fs place :: place) (.file [])) := by
      simp only [callsThrough, hcreate]
    rw [hcall]
    exact (unlessRefused_eq refusal .createTemporary fs _).imp_right fun h => ⟨place, h⟩

theorem writeTemporary_cases (naming : FileSystem.Naming) (refusal : Option (Stage × String))
    (blob : Bytes) (temporary : Place) (fs : FileSystem) :
    (∃ reason, (callsThrough naming refusal).writeTemporary blob temporary fs =
      (.error reason, fs)) ∨
    (callsThrough naming refusal).writeTemporary blob temporary fs =
      (.ok (), fs.set temporary (.file blob)) :=
  unlessRefused_eq refusal .writeTemporary fs _

theorem syncTemporary_cases (naming : FileSystem.Naming) (refusal : Option (Stage × String))
    (temporary : Place) (fs : FileSystem) :
    (∃ reason, (callsThrough naming refusal).syncTemporary temporary fs = (.error reason, fs)) ∨
    (callsThrough naming refusal).syncTemporary temporary fs = (.ok (), fs) :=
  unlessRefused_eq refusal .syncTemporary fs _

theorem renameTemporary_cases (naming : FileSystem.Naming) (refusal : Option (Stage × String))
    (path : String) (temporary : Place) (fs : FileSystem) :
    (∃ reason, (callsThrough naming refusal).renameTemporary path temporary fs =
      (.error reason, fs)) ∨
    ∃ fs', fs.rename temporary path = .ok fs' ∧
      (callsThrough naming refusal).renameTemporary path temporary fs = (.ok (), fs') := by
  cases hrename : fs.rename temporary path with
  | error fault =>
    have hcall : (callsThrough naming refusal).renameTemporary path temporary fs =
        unlessRefused refusal .rename fs (.error fault.message, fs) := by
      simp only [callsThrough, hrename]
    rw [hcall]
    exact .inl (unlessRefused_error refusal .rename fs fault.message)
  | ok fs' =>
    have hcall : (callsThrough naming refusal).renameTemporary path temporary fs =
        unlessRefused refusal .rename fs (.ok (), fs') := by
      simp only [callsThrough, hrename]
    rw [hcall]
    exact (unlessRefused_eq refusal .rename fs _).imp_right fun h => ⟨fs', rfl, h⟩

/-- A replacement fails and leaves nothing but directories that it made, or it makes them all and
renames a temporary file with the blob. -/
theorem replaceThrough_cases (naming : FileSystem.Naming) (refusal : Option (Stage × String))
    (path : String) (blob : Bytes) (fs : FileSystem) :
    (∃ error level, replaceThrough naming refusal path blob fs =
      (.error error, fs.ensureAbove level (Path.directory path))) ∨
    ∃ made temporary fs', made = (fs.ensureDirectory (Path.directory path)).2 ∧
      (∃ place, temporary = naming.name made place :: place) ∧
      (made.set temporary (.file blob)).rename temporary path = .ok fs' ∧
      replaceThrough naming refusal path blob fs = (.ok (), fs') := by
  generalize hrun : replaceThrough naming refusal path blob fs = final
  unfold replaceThrough replaceM at hrun
  dsimp only [bind, pure] at hrun
  rcases makeDirectories_cases naming refusal (Path.directory path) fs with
    ⟨reason, level, hmake⟩ | hmake
  · rw [hmake] at hrun
    exact .inl ⟨_, level, hrun.symm⟩
  rw [hmake] at hrun
  dsimp only at hrun
  generalize hmade : (fs.ensureDirectory (Path.directory path)).2 = made at hrun
  have habove : fs.ensureAbove 0 (Path.directory path) = made := hmade
  rcases createTemporary_cases naming refusal (Path.directory path) made with
    ⟨reason, hcreate⟩ | ⟨place, hcreate⟩
  · rw [hcreate] at hrun
    exact .inl ⟨_, 0, by rw [habove, ← hrun]⟩
  rw [hcreate] at hrun
  dsimp only at hrun
  -- From here on a failure removes the temporary file, whatever was written to it.
  have hgone (node : Node) : (made.set (naming.name made place :: place) node).remove
      (naming.name made place :: place) = made :=
    FileSystem.remove_set (naming.isFree made place) node
  generalize htemporary : naming.name made place :: place = temporary at hrun hgone
  rcases writeTemporary_cases naming refusal blob temporary (made.set temporary (.file [])) with
    ⟨reason, hwrite⟩ | hwrite
  · rw [hwrite] at hrun
    exact .inl ⟨_, 0, by rw [habove, ← hgone (.file []), ← hrun]; rfl⟩
  rw [hwrite, FileSystem.set_set] at hrun
  dsimp only at hrun
  rcases syncTemporary_cases naming refusal temporary (made.set temporary (.file blob)) with
    ⟨reason, hsync⟩ | hsync
  · rw [hsync] at hrun
    exact .inl ⟨_, 0, by rw [habove, ← hgone (.file blob), ← hrun]; rfl⟩
  rw [hsync] at hrun
  dsimp only at hrun
  rcases renameTemporary_cases naming refusal path temporary (made.set temporary (.file blob)) with
    ⟨reason, hrename⟩ | ⟨fs', hrenamed, hrename⟩
  · rw [hrename] at hrun
    exact .inl ⟨_, 0, by rw [habove, ← hgone (.file blob), ← hrun]; rfl⟩
  · rw [hrename] at hrun
    exact .inr ⟨made, temporary, fs', rfl, ⟨place, htemporary.symm⟩, hrenamed, hrun.symm⟩

theorem rename_of_replaceThrough
    (h : replaceThrough naming refusal path blob fs = (.ok (), fs')) :
    ∃ made temporary, made = (fs.ensureDirectory (Path.directory path)).2 ∧
      (∃ place, temporary = naming.name made place :: place) ∧
      (made.set temporary (.file blob)).rename temporary path = .ok fs' := by
  rcases replaceThrough_cases naming refusal path blob fs with ⟨error, level, hfailed⟩ | hdone
  · rw [hfailed] at h
    cases h
  · obtain ⟨made, temporary, fs₁, hmade, htemporary, hrename, hdone⟩ := hdone
    rw [hdone] at h
    cases h
    exact ⟨made, temporary, hmade, htemporary, hrename⟩

theorem read_replaceThrough (h : replaceThrough naming refusal path blob fs = (.ok (), fs')) :
    FileSlot.read path fs' = .ok blob := by
  obtain ⟨made, temporary, -, ⟨place, htemporary⟩, hrename⟩ := rename_of_replaceThrough h
  have hsource : (made.set temporary (.file blob)).node? temporary = some (.file blob) := by
    refine FileSystem.node?_set_self _ ?_
    rw [htemporary]
    exact List.cons_ne_nil _ _
  rw [FileSlot.read, FileSystem.read_rename hsource hrename]

end FileSlot

theorem Slot.read_write {slot slot' : Slot} {blob : Bytes}
    (h : slot.write blob = (.ok (), slot')) : slot'.read = .ok blob := by
  cases slot with
  | memory old =>
    cases h
    rfl
  | file path fs =>
    unfold Slot.write at h
    dsimp only at h
    cases hreplace : FileSlot.replace none path blob fs with
    | mk result fs' =>
      rw [hreplace] at h
      cases h
      exact FileSlot.read_replaceThrough hreplace

/-- A vault from which a blob was loaded gives back what is put in. -/
theorem Vault.load_store {v v' : Vault} {blob old : Bytes} (hload : v.load = .ok old)
    (h : v.store blob = (.ok (), v')) : v'.load = .ok blob := by
  have hrefuse : v.refuseLoad = none := by
    unfold Vault.load at hload
    split at hload
    · cases hload
    · assumption
  unfold Vault.store at h
  dsimp only at h
  split at h
  · cases h
  cases hwrite : v.slot.write blob with
  | mk result slot =>
    rw [hwrite] at h
    cases h
    simp only [Vault.load, hrefuse]
    exact Slot.read_write hwrite

end DurableCalc
