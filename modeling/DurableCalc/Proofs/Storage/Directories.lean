import DurableCalc.Proofs.Storage.ReadBack

/-!
# Making directories

Directories are made where nothing stood, so that files stay where and as they are, and a path that
leads to a file leads to it as before. A path that led to nothing may lead to something once the
directories on its way are there: behind a directory that was missing, `..` goes up again.
-/

namespace DurableCalc.FileSystem

variable {fs fs' fs'' : FileSystem} {place : Place} {path : String} {contents : Bytes} {level : Nat}

/-- A file system with more directories, each in a place where nothing stood. -/
structure Gains (fs fs' : FileSystem) : Prop where
  working_eq : fs'.working = fs.working
  keeps : ∀ {place node}, fs.node? place = some node → fs'.node? place = some node
  file_eq : ∀ {place contents}, fs'.node? place = some (.file contents) →
    fs.node? place = some (.file contents)

namespace Gains

theorem refl (fs : FileSystem) : fs.Gains fs :=
  ⟨rfl, id, id⟩

theorem trans (h : fs.Gains fs') (h' : fs'.Gains fs'') : fs.Gains fs'' :=
  ⟨h'.working_eq.trans h.working_eq, fun hnode => h'.keeps (h.keeps hnode),
    fun hfile => h.file_eq (h'.file_eq hfile)⟩

theorem walk (h : fs.Gains fs') (hwalk : fs.walk path = .ok (.at place (.file contents))) :
    fs'.walk path = .ok (.at place (.file contents)) := by
  have hreceives : fs.Receives path place := .inl ⟨contents, hwalk⟩
  have hnode := (node?_of_walk hwalk).1 place contents rfl
  exact hreceives.walk h.working_eq (fun p => h.keeps) (h.keeps hnode)

theorem read (h : fs.Gains fs') (hread : fs.read path = .ok contents) :
    fs'.read path = .ok contents := by
  obtain ⟨place, hwalk⟩ := exists_walk_of_read hread
  exact read_of_walk (h.walk hwalk)

end Gains

theorem gains_makeDirectory (h : fs.makeDirectory path = .ok fs') : fs.Gains fs' := by
  unfold makeDirectory at h
  split at h
  · cases h
  · cases h
  rename_i place hwalk
  cases h
  have hfree : fs.node? place = none := (node?_of_walk hwalk).2 place rfl
  have hplace : place ≠ [] := by
    rintro rfl
    cases hfree
  refine ⟨rfl, fun {p node} hnode => ?_, fun {p contents} hfile => ?_⟩
  · have hne : p ≠ place := by
      rintro rfl
      rw [hfree] at hnode
      cases hnode
    rwa [node?_set_of_ne _ hne]
  · by_cases hne : p = place
    · rw [hne, node?_set_self _ hplace] at hfile
      cases hfile
    · rwa [node?_set_of_ne _ hne] at hfile

theorem gains_makeDirectories (fuel : Nat) (path : String) (fs : FileSystem) :
    fs.Gains (makeDirectories fuel path fs).2 := by
  induction fuel generalizing path fs with
  | zero => exact .refl fs
  | succ fuel ih =>
    unfold makeDirectories
    split
    · exact .refl fs
    split
    · exact gains_makeDirectory ‹_›
    · split
      · exact .refl fs
      rename_i parent _
      have hparent := ih parent fs
      split
      · rename_i hmade
        rwa [hmade] at hparent
      rename_i hmade
      rw [hmade] at hparent
      split
      · exact hparent.trans (gains_makeDirectory ‹_›)
      · exact hparent
    · exact .refl fs

theorem gains_ensureDirectory (fs : FileSystem) (path : String) :
    fs.Gains (fs.ensureDirectory path).2 :=
  gains_makeDirectories _ path fs

theorem gains_ensureAbove (fs : FileSystem) (level : Nat) (path : String) :
    fs.Gains (fs.ensureAbove level path) := by
  unfold ensureAbove
  split
  · exact .refl fs
  · exact gains_ensureDirectory fs _

/-- Some of the directories on the way to a path are made, in any number of goes. -/
inductive Paved (path : String) (fs : FileSystem) : FileSystem → Prop
  | refl : Paved path fs fs
  | step {fs' : FileSystem} (level : Nat) (h : Paved path fs fs') :
    Paved path fs (fs'.ensureAbove level (Path.directory path))

namespace Paved

theorem trans (h : Paved path fs fs') (h' : Paved path fs' fs'') : Paved path fs fs'' := by
  induction h' with
  | refl => exact h
  | step level _ ih => exact ih.step level

theorem gains (h : Paved path fs fs') : fs.Gains fs' := by
  induction h with
  | refl => exact .refl fs
  | step level _ ih => exact ih.trans (gains_ensureAbove _ level _)

end Paved

end DurableCalc.FileSystem
