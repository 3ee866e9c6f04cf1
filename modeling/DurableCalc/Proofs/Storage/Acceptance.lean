import DurableCalc.Proofs.Storage.PlainPath

/-!
# Replacements that go through

Where a path leads to a file, or to a free place in a directory, its directory is there: it is
walked by all names of the path but the last. A replacement that the machine does not refuse at any
stage then succeeds, unless the path of its temporary file is too long.
-/

namespace DurableCalc

namespace FileSystem

variable {fs : FileSystem} {place target temporary : Place} {path : String} {pieces : List String}
  {naming : Naming}

/-- What a walk through directories passes over does not matter. -/
theorem walkFrom_leading : fs.walkFrom place pieces = .ok (.at target .directory) ↔
    fs.walkFrom place (leading pieces) = .ok (.at target .directory) := by
  induction pieces generalizing place with
  | nil => exact Iff.rfl
  | cons name rest ih =>
    by_cases hskip : (name = "" || name = ".") = true
    · rw [walkFrom, if_pos hskip, leading_skip hskip]
      exact ih
    rw [leading_cons hskip, walkFrom, walkFrom, if_neg hskip, if_neg hskip]
    by_cases hup : name = ".."
    · rw [if_pos hup, if_pos hup]
      exact ih
    rw [if_neg hup, if_neg hup]
    by_cases hlong : nameLimit < (Text.encode name).length
    · rw [if_pos hlong, if_pos hlong]
    rw [if_neg hlong, if_neg hlong]
    cases fs.node? (name :: place) with
    | none =>
      dsimp only
      constructor <;> intro h <;> split at h <;> cases h
    | some node =>
      cases node with
      | directory => exact ih
      | file contents =>
        dsimp only
        constructor <;> intro h <;> split at h <;> cases h

theorem isWalked_directory (h : IsWalked path) : IsWalked (Path.directory path) := by
  rcases Path.directory_cases path with hworking | ⟨hempty, rest, hrest⟩
  · rw [hworking]
    exact ⟨rfl, rfl, by decide +kernel⟩
  · have hpath : path = Path.directory path ++ String.ofList rest :=
      String.toList_injective (by simp [hrest])
    have hnull := h.contains_eq
    have hlength := h.length_le
    rw [hpath] at hnull hlength
    rw [Text.encode_append, List.length_append] at hlength
    refine ⟨hempty, ?_, by omega⟩
    simp at hnull ⊢
    exact hnull.1

theorem Receives.walk_directory (h : fs.Receives path target) :
    ∃ inner, fs.walk (Path.directory path) = .ok (.at inner .directory) := by
  obtain ⟨hpath, w, hwalk, hend⟩ := h.walkFrom_eq
  obtain ⟨front, name, inner, hpieces, hname, -, hfront⟩ := exists_front_of_walkFrom hwalk hend
  have hleading : (Path.names path.toList).map String.ofList = leading front ++ [name] := by
    rw [← leading_split, hpieces, leading, List.filter_append]
    exact congrArg _ (leading_cons hname.leads)
  have hnames : Path.names path.toList ≠ [] := fun hnil => by
    rw [hnil] at hleading
    simp at hleading
  obtain ⟨habove, hdirectory⟩ := Path.above_directory hnames
  have hstart : fs.start (Path.directory path) = fs.start path := by
    simp only [start, habove.2]
  refine ⟨inner, ?_⟩
  rw [(isWalked_directory hpath).walk_eq, hstart, walkFrom_leading, leading_split, hdirectory,
    List.map_dropLast, hleading, List.dropLast_concat]
  exact walkFrom_leading.1 hfront

theorem ensureDirectory_of_walk (h : fs.walk path = .ok (.at place .directory)) :
    fs.ensureDirectory path = (.ok (), fs) := by
  have hmake : fs.makeDirectory path = .error .alreadyExists := by rw [makeDirectory, h]
  have hthere : fs.isDirectory path = true := by rw [isDirectory, h]
  rw [ensureDirectory, makeDirectories, (isWalked_of_walk h).isEmpty_eq, hmake, hthere]
  rfl

theorem createTemporary_of_walk (h : fs.walk path = .ok (.at place .directory))
    (hlimit : (Text.encode (fs.fromRoot path)).length + temporaryNameSize ≤ pathLimit) :
    fs.createTemporary naming path =
      .ok (naming.name fs place :: place, fs.set (naming.name fs place :: place) (.file [])) := by
  rw [createTemporary, if_neg (Nat.not_lt.2 hlimit), h]

theorem Receives.exists_rename (h : fs.Receives path target) (blob : Bytes)
    (hfree : fs.node? temporary = none) :
    ∃ fs', (fs.set temporary (.file blob)).rename temporary path = .ok fs' := by
  have htemporary : temporary ≠ [] := by
    rintro rfl
    cases hfree
  have hsource := fs.node?_set_self (.file blob) htemporary
  have hwalk : (fs.set temporary (.file blob)).walk path =
      .ok ((fs.set temporary (.file blob)).entry target) := by
    refine h.walk_eq rfl fun p hp => ?_
    have hne : p ≠ temporary := by
      rintro rfl
      rw [hfree] at hp
      cases hp
    rwa [node?_set_of_ne _ hne]
  rw [rename, hsource, hwalk, entry]
  by_cases hsame : target = temporary
  · rw [hsame, hsource]
    exact ⟨_, rfl⟩
  rw [node?_set_of_ne _ hsame]
  rcases h with ⟨contents, hfile⟩ | ⟨hplace, hslash⟩
  · rw [(node?_of_walk hfile).1 target contents rfl]
    exact ⟨_, rfl⟩
  · rw [(node?_of_walk hplace).2 target rfl]
    exact ⟨_, if_neg hslash⟩

end FileSystem

namespace FileSlot

open FileSystem

/-- A replacement that is not refused succeeds wherever a file is or may be put. -/
theorem replaceThrough_of_receives {fs : FileSystem} {path : String} {target : Place}
    (h : fs.Receives path target) (naming : Naming) (blob : Bytes)
    (hlimit : (Text.encode (fs.fromRoot (Path.directory path))).length + temporaryNameSize ≤
      pathLimit) :
    ∃ fs', replaceThrough naming none path blob fs = (.ok (), fs') := by
  obtain ⟨inner, hdirectory⟩ := h.walk_directory
  obtain ⟨fs', hrename⟩ := h.exists_rename blob (naming.isFree fs inner)
  refine ⟨fs', ?_⟩
  simp only [replaceThrough, replaceM, callsThrough, unlessRefused, bind, pure,
    ensureDirectory_of_walk hdirectory, createTemporary_of_walk hdirectory hlimit, set_set, hrename,
    Except.mapError]

end FileSlot

end DurableCalc
