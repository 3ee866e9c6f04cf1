import DurableCalc.Error
import DurableCalc.Storage.FileSystem

/-!
# Slots

A slot holds one blob, the empty blob standing for nothing saved. It is a piece of memory or a file.
A file is replaced as a whole: the blob goes into a temporary file beside it, which is then renamed.
A replacement that is refused at any of its stages leaves the file as it was.
-/

namespace DurableCalc

/-- The stages of a replacement. The directories on the way to the file are made one below the
other; each is told by how many levels it stands above the last. -/
inductive Stage
  | createDirectory (level : Nat)
  | createTemporary
  | writeTemporary
  | syncTemporary
  | rename
  deriving DecidableEq, Repr

/-- The calls on files that a replacement makes, as a monad carries them out on what holds the
files, `φ`. A temporary file is told by a `τ`. A call that fails gives its reason. -/
structure FileCalls (m : Type → Type) (τ φ : Type) where
  makeDirectories : String → φ → m (Except String Unit × φ)
  createTemporary : String → φ → m (Except String τ × φ)
  writeTemporary : Bytes → τ → φ → m (Except String Unit × φ)
  syncTemporary : τ → φ → m (Except String Unit × φ)
  renameTemporary : String → τ → φ → m (Except String Unit × φ)
  removeTemporary : τ → φ → m φ

namespace FileSlot

def read (path : String) (fs : FileSystem) : Except StorageError Bytes :=
  match fs.read path with
  | .ok contents => .ok contents
  | .error .notFound => .ok []
  | .error fault => .error (.read path fault.message)

section Replace

variable {m : Type → Type} {τ φ : Type} [Monad m]

def giveUpM (calls : FileCalls m τ φ) (temporary : τ) (error : StorageError) (files : φ) :
    m (Except StorageError Unit × φ) := do
  return (.error error, ← calls.removeTemporary temporary files)

def replaceM (calls : FileCalls m τ φ) (path : String) (blob : Bytes) (files : φ) :
    m (Except StorageError Unit × φ) := do
  let directory := Path.directory path
  match ← calls.makeDirectories directory files with
  | (.error reason, files) => return (.error (.createDirectory directory reason), files)
  | (.ok (), files) =>
    match ← calls.createTemporary directory files with
    | (.error reason, files) => return (.error (.createTemporary reason), files)
    | (.ok temporary, files) =>
      match ← calls.writeTemporary blob temporary files with
      | (.error reason, files) => giveUpM calls temporary (.writeTemporary reason) files
      | (.ok (), files) =>
        match ← calls.syncTemporary temporary files with
        | (.error reason, files) => giveUpM calls temporary (.syncTemporary reason) files
        | (.ok (), files) =>
          match ← calls.renameTemporary path temporary files with
          | (.error reason, files) => giveUpM calls temporary (.replace path reason) files
          | (.ok (), files) => return (.ok (), files)

end Replace

def unlessRefused {α : Type} (refusal : Option (Stage × String)) (stage : Stage) (fs : FileSystem)
    (done : Except String α × FileSystem) : Except String α × FileSystem :=
  match refusal with
  | none => done
  | some (refused, reason) => if refused = stage then (.error reason, fs) else done

theorem unlessRefused_eq {α : Type} (refusal : Option (Stage × String)) (stage : Stage)
    (fs : FileSystem) (done : Except String α × FileSystem) :
    (∃ reason, unlessRefused refusal stage fs done = (.error reason, fs)) ∨
      unlessRefused refusal stage fs done = done := by
  cases refusal with
  | none => exact .inr rfl
  | some refused =>
    by_cases h : refused.1 = stage
    · exact .inl ⟨refused.2, if_pos h⟩
    · exact .inr (if_neg h)

theorem unlessRefused_error {α : Type} (refusal : Option (Stage × String)) (stage : Stage)
    (fs : FileSystem) (reason : String) :
    ∃ told, unlessRefused (α := α) refusal stage fs (.error reason, fs) = (.error told, fs) := by
  rcases unlessRefused_eq (α := α) refusal stage fs (.error reason, fs) with hrefused | hdone
  · exact hrefused
  · exact ⟨reason, hdone⟩

/-- The calls on a file system in which temporary files are named in some way, unless the machine
refuses at a stage, giving a reason. -/
def callsThrough (naming : FileSystem.Naming) (refusal : Option (Stage × String)) :
    FileCalls Id Place FileSystem where
  makeDirectories path fs :=
    match refusal with
    | some (.createDirectory level, reason) => (.error reason, fs.ensureAbove (level + 1) path)
    | _ =>
      match fs.ensureDirectory path with
      | (result, fs) => (result.mapError FileFault.message, fs)
  createTemporary path fs :=
    unlessRefused refusal .createTemporary fs <|
      match fs.createTemporary naming path with
      | .error fault => (.error fault.message, fs)
      | .ok (temporary, fs) => (.ok temporary, fs)
  writeTemporary blob temporary fs :=
    unlessRefused refusal .writeTemporary fs (.ok (), fs.set temporary (.file blob))
  syncTemporary _ fs := unlessRefused refusal .syncTemporary fs (.ok (), fs)
  renameTemporary path temporary fs :=
    unlessRefused refusal .rename fs <|
      match fs.rename temporary path with
      | .error fault => (.error fault.message, fs)
      | .ok fs => (.ok (), fs)
  removeTemporary temporary fs := fs.remove temporary

def replaceThrough (naming : FileSystem.Naming) (refusal : Option (Stage × String)) (path : String)
    (blob : Bytes) (fs : FileSystem) : Except StorageError Unit × FileSystem :=
  replaceM (m := Id) (callsThrough naming refusal) path blob fs

def replace (refusal : Option (Stage × String)) (path : String) (blob : Bytes) (fs : FileSystem) :
    Except StorageError Unit × FileSystem :=
  replaceThrough FileSystem.freshNaming refusal path blob fs

end FileSlot

inductive Slot
  | memory (blob : Bytes)
  | file (path : String) (fs : FileSystem)
  deriving Repr

namespace Slot

def read : Slot → Except StorageError Bytes
  | .memory blob => .ok blob
  | .file path fs => FileSlot.read path fs

def write (blob : Bytes) : Slot → Except StorageError Unit × Slot
  | .memory _ => (.ok (), .memory blob)
  | .file path fs =>
    match FileSlot.replace none path blob fs with
    | (result, fs) => (result, .file path fs)

end Slot

end DurableCalc
