import DurableCalc.Proofs.Storage.Directories

/-!
# What a replacement leaves behind

A replacement that fails has made directories at most; its temporary file is gone. One that succeeds
has then put the blob in one place: where the path led to a file, or where nothing stood. In either
case the files that the path does not lead to are as they were.
-/

namespace DurableCalc

namespace FileSystem

variable {fs fs' fs'' made : FileSystem} {path : String} {place target temporary : Place}
  {blob : Bytes}

def LeadsTo (fs : FileSystem) (path : String) (place : Place) : Prop :=
  ∃ contents, fs.walk path = .ok (.at place (.file contents))

theorem LeadsTo.node?_eq (h : fs.LeadsTo path place) :
    ∃ contents, fs.node? place = some (.file contents) := by
  obtain ⟨contents, hwalk⟩ := h
  exact ⟨contents, (node?_of_walk hwalk).1 place contents rfl⟩

theorem LeadsTo.unique (h : fs.LeadsTo path place) (h' : fs.LeadsTo path target) :
    place = target := by
  obtain ⟨contents, hwalk⟩ := h
  obtain ⟨contents', hwalk'⟩ := h'
  rw [hwalk] at hwalk'
  cases hwalk'
  rfl

theorem LeadsTo.exists_read (h : fs.LeadsTo path place) :
    ∃ contents, fs.read path = .ok contents := by
  obtain ⟨contents, hwalk⟩ := h
  exact ⟨contents, read_of_walk hwalk⟩

theorem Gains.leadsTo (h : fs.Gains fs') (hleads : fs.LeadsTo path place) :
    fs'.LeadsTo path place := by
  obtain ⟨contents, hwalk⟩ := hleads
  exact ⟨contents, h.walk hwalk⟩

/-- Nothing is changed but what a path leads to, and nothing is added but that and directories. -/
structure Spares (path : String) (fs fs' : FileSystem) : Prop where
  directory_eq : ∀ {place}, fs.node? place = some .directory → fs'.node? place = some .directory
  leadsTo : ∀ {place}, fs.LeadsTo path place → fs'.LeadsTo path place
  file_eq : ∀ {place contents}, fs.node? place = some (.file contents) →
    ¬ fs.LeadsTo path place →
      fs'.node? place = some (.file contents) ∧ ¬ fs'.LeadsTo path place
  old_or_leadsTo : ∀ {place contents}, fs'.node? place = some (.file contents) →
    fs.node? place = some (.file contents) ∨ fs'.LeadsTo path place

namespace Spares

theorem refl (path : String) (fs : FileSystem) : Spares path fs fs :=
  ⟨id, id, fun hfile hleads => ⟨hfile, hleads⟩, .inl⟩

theorem trans (h : Spares path fs fs') (h' : Spares path fs' fs'') : Spares path fs fs'' where
  directory_eq hnode := h'.directory_eq (h.directory_eq hnode)
  leadsTo hleads := h'.leadsTo (h.leadsTo hleads)
  file_eq hfile hleads :=
    have hafter := h.file_eq hfile hleads
    h'.file_eq hafter.1 hafter.2
  old_or_leadsTo hfile := by
    rcases h'.old_or_leadsTo hfile with hfile | hleads
    · exact (h.old_or_leadsTo hfile).imp_right h'.leadsTo
    · exact .inr hleads

end Spares

theorem Gains.spares (h : fs.Gains fs')
    (hleads : ∀ place, fs'.LeadsTo path place → fs.LeadsTo path place) : Spares path fs fs' where
  directory_eq := h.keeps
  leadsTo := h.leadsTo
  file_eq hfile hnot := ⟨h.keeps hfile, fun hafter => hnot (hleads _ hafter)⟩
  old_or_leadsTo hfile := .inl (h.file_eq hfile)

theorem spares_set (htarget : fs.LeadsTo path target ∨ fs.node? target = none)
    (hwalk : (fs.set target (.file blob)).walk path = .ok (.at target (.file blob))) :
    Spares path fs (fs.set target (.file blob)) := by
  have hafter : (fs.set target (.file blob)).LeadsTo path target := ⟨blob, hwalk⟩
  have hdirectory : ∀ p, fs.node? p = some .directory → p ≠ target := by
    rintro p hp rfl
    rcases htarget with hleads | hfree
    · obtain ⟨contents, hfile⟩ := hleads.node?_eq
      rw [hp] at hfile
      cases hfile
    · rw [hp] at hfree
      cases hfree
  have hdirectory' : ∀ p, fs.node? p = some .directory →
      (fs.set target (.file blob)).node? p = some .directory := by
    intro p hp
    rwa [node?_set_of_ne _ (hdirectory p hp)]
  have hfile : ∀ p contents, fs.node? p = some (.file contents) → ¬ fs.LeadsTo path p →
      p ≠ target := by
    rintro p contents hp hnot rfl
    rcases htarget with hleads | hfree
    · exact hnot hleads
    · rw [hp] at hfree
      cases hfree
  refine ⟨fun hp => hdirectory' _ hp, fun {p} hleads => ?_, fun {p contents} hp hnot => ?_,
    fun {p contents} hp => ?_⟩
  · rcases htarget with hleads' | hfree
    · rwa [hleads.unique hleads']
    · obtain ⟨contents, hp⟩ := hleads
      have hnode := (node?_of_walk hp).1 p contents rfl
      have hne : p ≠ target := by
        rintro rfl
        rw [hnode] at hfree
        cases hfree
      have hreceives : fs.Receives path p := .inl ⟨contents, hp⟩
      exact ⟨contents, hreceives.walk rfl hdirectory' (by rwa [node?_set_of_ne _ hne])⟩
  · have hne := hfile p contents hp hnot
    exact ⟨by rwa [node?_set_of_ne _ hne], fun hleads => hne (hleads.unique hafter)⟩
  · by_cases hne : p = target
    · exact .inr (hne ▸ hafter)
    · rw [node?_set_of_ne _ hne] at hp
      exact .inl hp

/-- A temporary file that is renamed is put where the path leads to a file, or where nothing
stood. -/
theorem rename_temporary (hfree : made.node? temporary = none)
    (h : (made.set temporary (.file blob)).rename temporary path = .ok fs') :
    ∃ target, fs' = made.set target (.file blob) ∧
      (made.LeadsTo path target ∨ made.node? target = none) ∧
        fs'.walk path = .ok (.at target (.file blob)) := by
  have htemporary : temporary ≠ [] := by
    rintro rfl
    cases hfree
  have hsource := made.node?_set_self (.file blob) htemporary
  obtain ⟨target, rfl, hreceives⟩ := rename_eq_ok hsource h
  refine ⟨target, by rw [remove_set hfree], ?_, hreceives.walk_moved hsource⟩
  by_cases hne : target = temporary
  · exact .inr (hne ▸ hfree)
  rcases hreceives with ⟨old, hwalk⟩ | ⟨hwalk, -⟩
  · have hreceives : (made.set temporary (.file blob)).Receives path target := .inl ⟨old, hwalk⟩
    have hold := (node?_of_walk hwalk).1 target old rfl
    rw [node?_set_of_ne _ hne] at hold
    refine .inl ⟨old, hreceives.walk rfl (fun p hp => ?_) hold⟩
    have hp' : p ≠ temporary := by
      rintro rfl
      rw [hsource] at hp
      cases hp
    rwa [node?_set_of_ne _ hp'] at hp
  · have hnone := (node?_of_walk hwalk).2 target rfl
    rw [node?_set_of_ne _ hne] at hnone
    exact .inr hnone

end FileSystem

namespace FileSlot

open FileSystem

variable {naming : Naming} {refusal : Option (Stage × String)} {path : String} {blob : Bytes}
  {fs fs' : FileSystem} {error : StorageError}

theorem ensureAbove_of_replaceThrough
    (h : replaceThrough naming refusal path blob fs = (.error error, fs')) :
    ∃ level, fs' = fs.ensureAbove level (Path.directory path) := by
  rcases replaceThrough_cases naming refusal path blob fs with ⟨error, level, hfailed⟩ | hdone
  · rw [hfailed] at h
    cases h
    exact ⟨level, rfl⟩
  · obtain ⟨made, temporary, fs', -, -, -, hdone⟩ := hdone
    rw [hdone] at h
    cases h

/-- A replacement that succeeds has made directories and then put the blob where the path led to a
file or where nothing stood. -/
theorem set_of_replaceThrough
    (h : replaceThrough naming refusal path blob fs = (.ok (), fs')) :
    ∃ made target, made = fs.ensureAbove 0 (Path.directory path) ∧
      fs' = made.set target (.file blob) ∧
      (made.LeadsTo path target ∨ made.node? target = none) ∧
        fs'.walk path = .ok (.at target (.file blob)) := by
  obtain ⟨made, temporary, hmade, ⟨place, rfl⟩, hrename⟩ := rename_of_replaceThrough h
  obtain ⟨target, hset, htarget, hwalk⟩ := rename_temporary (naming.isFree made place) hrename
  exact ⟨made, target, hmade, hset, htarget, hwalk⟩

end FileSlot

end DurableCalc
