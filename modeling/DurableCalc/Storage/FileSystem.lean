import DurableCalc.Text.Utf8
import DurableCalc.Storage.Path

/-!
# A file system

Directories and regular files in one tree, with a working directory. A place in the tree is the
list of the names that lead to it, innermost first. A path is walked name by name from the root or
from the working directory, `..` going up; a walk ends at a node, at a free place in a directory,
or at the reason why it cannot go on.
-/

namespace DurableCalc

inductive FileFault
  | notFound
  | notADirectory
  | isADirectory
  | alreadyExists
  | busy
  | nameTooLong
  | nullInName
  | noAncestor
  deriving DecidableEq, Repr

def FileFault.message : FileFault → String
  | .notFound => "No such file or directory"
  | .notADirectory => "Not a directory"
  | .isADirectory => "Is a directory"
  | .alreadyExists => "File exists"
  | .busy => "Device or resource busy"
  | .nameTooLong => "File name too long"
  | .nullInName => "file name contained an unexpected NUL byte"
  | .noAncestor => "failed to create whole tree"

/-- The names from a node up to the root. -/
abbrev Place := List String

inductive Node
  | file (contents : Bytes)
  | directory
  deriving DecidableEq, Repr

/-- The nodes below the root, each at its place, the newest first. -/
structure FileSystem where
  nodes : List (Place × Node) := []
  working : Place := []
  deriving Repr

namespace FileSystem

def emptyDirectory : FileSystem :=
  let working := ["work", "temporary"]
  { nodes := [(working, .directory), (working.tail, .directory)], working }

def node? (fs : FileSystem) (place : Place) : Option Node :=
  if place = [] then some .directory else fs.nodes.lookup place

def set (fs : FileSystem) (place : Place) (node : Node) : FileSystem :=
  { fs with nodes := (place, node) :: fs.nodes.filter fun entry => entry.1 != place }

def remove (fs : FileSystem) (place : Place) : FileSystem :=
  { fs with nodes := fs.nodes.filter fun entry => entry.1 != place }

inductive Walk
  | at (place : Place) (node : Node)
  | free (place : Place)
  deriving DecidableEq, Repr

/-- The longest name in a directory and the longest path, in bytes. -/
def nameLimit : Nat := 255

def pathLimit : Nat := 4095

/-- Walks on from a directory. The names of the path that is left are not empty, apart from one at
its end that asks for a directory. -/
def walkFrom (fs : FileSystem) (place : Place) : List String → Except FileFault Walk
  | [] => .ok (.at place .directory)
  | name :: rest =>
    if name = "" || name = "." then walkFrom fs place rest
    else if name = ".." then walkFrom fs place.tail rest
    else if nameLimit < (Text.encode name).length then .error .nameTooLong
    else
      match fs.node? (name :: place) with
      | some .directory => walkFrom fs (name :: place) rest
      | some (.file contents) =>
        if rest.isEmpty then .ok (.at (name :: place) (.file contents)) else .error .notADirectory
      | none => if rest.all (· = "") then .ok (.free (name :: place)) else .error .notFound

def walk (fs : FileSystem) (path : String) : Except FileFault Walk :=
  if path.isEmpty then .error .notFound
  else if path.toList.contains '\x00' then .error .nullInName
  else if pathLimit < (Text.encode path).length then .error .nameTooLong
  else
    let start := if path.toList.head? = some '/' then [] else fs.working
    walkFrom fs start ((Path.split path.toList).map String.ofList)

def isDirectory (fs : FileSystem) (path : String) : Bool :=
  match fs.walk path with
  | .ok (.at _ .directory) => true
  | _ => false

def read (fs : FileSystem) (path : String) : Except FileFault Bytes :=
  match fs.walk path with
  | .error fault => .error fault
  | .ok (.free _) => .error .notFound
  | .ok (.at _ .directory) => .error .isADirectory
  | .ok (.at _ (.file contents)) => .ok contents

def makeDirectory (fs : FileSystem) (path : String) : Except FileFault FileSystem :=
  match fs.walk path with
  | .error fault => .error fault
  | .ok (.at _ _) => .error .alreadyExists
  | .ok (.free place) => .ok (fs.set place .directory)

/-- Makes a directory after its missing ancestors; what was made before a failure stays. -/
def makeDirectories : Nat → String → FileSystem → Except FileFault Unit × FileSystem
  | 0, _, fs => (.error .noAncestor, fs)
  | fuel + 1, path, fs =>
    if path.isEmpty then (.ok (), fs)
    else
      match fs.makeDirectory path with
      | .ok fs => (.ok (), fs)
      | .error .notFound =>
        match Path.parent? path with
        | none => (.error .noAncestor, fs)
        | some parent =>
          match makeDirectories fuel parent fs with
          | (.error fault, fs) => (.error fault, fs)
          | (.ok (), fs) =>
            match fs.makeDirectory path with
            | .ok fs => (.ok (), fs)
            | .error fault => (if fs.isDirectory path then .ok () else .error fault, fs)
      | .error fault => (if fs.isDirectory path then .ok () else .error fault, fs)

def ensureDirectory (fs : FileSystem) (path : String) : Except FileFault Unit × FileSystem :=
  makeDirectories (path.length + 1) path fs

/-- Makes the directory so many levels above one, and its missing ancestors, as far as there is such
a level and it can be made. -/
def ensureAbove (fs : FileSystem) (level : Nat) (path : String) : FileSystem :=
  match Path.ancestor? level path with
  | none => fs
  | some path => (fs.ensureDirectory path).2

/-- Whether a path names what it leads to, which neither the root nor `.` nor `..` does. -/
def endsInName (path : String) : Bool :=
  match ((Path.split path.toList).filter fun name => name ≠ []).getLast? with
  | none => false
  | some name => name ≠ ['.'] && name ≠ ['.', '.']

/-- Moves a regular file to a path, in the stead of a regular file that was there. -/
def rename (fs : FileSystem) (source : Place) (path : String) : Except FileFault FileSystem :=
  match fs.node? source, fs.walk path with
  | some (.file contents), .ok (.at target (.file _)) =>
    .ok ((fs.remove source).set target (.file contents))
  | some (.file contents), .ok (.free target) =>
    if path.toList.getLast? = some '/' then .error .notADirectory
    else .ok ((fs.remove source).set target (.file contents))
  | some (.file _), .ok (.at _ .directory) =>
    .error (if endsInName path then .isADirectory else .busy)
  | some .directory, _ => .error .isADirectory
  | none, _ => .error .notFound
  | _, .error fault => .error fault

def namesIn (fs : FileSystem) (place : Place) : List String :=
  fs.nodes.filterMap fun
    | (name :: inner, _) => if inner = place then some name else none
    | _ => none

def list (fs : FileSystem) (path : String) : Option (List String) :=
  match fs.walk path with
  | .ok (.at place .directory) => some ((fs.namesIn place).mergeSort fun a b => a ≤ b)
  | _ => none

/-- A way to name a temporary file in a directory: by a name that is not taken there. -/
structure Naming where
  name : FileSystem → Place → String
  isFree : ∀ (fs : FileSystem) (place : Place), fs.node? (name fs place :: place) = none

def longestName (names : List String) : Nat :=
  names.foldr (fun name n => max name.length n) 0

/-- A name that is not in a directory: it is longer than all that are. -/
def freshName (fs : FileSystem) (place : Place) : String :=
  String.ofList ('.' :: List.replicate (longestName (fs.namesIn place)) '~')

theorem length_le_longestName {names : List String} {name : String} (h : name ∈ names) :
    name.length ≤ longestName names := by
  induction names with
  | nil => cases h
  | cons first names ih =>
    simp only [longestName, List.foldr_cons] at ih ⊢
    rcases List.mem_cons.1 h with rfl | h
    · exact Nat.le_max_left _ _
    · exact Nat.le_trans (ih h) (Nat.le_max_right _ _)

theorem mem_namesIn {fs : FileSystem} {place : Place} {name : String} {node : Node}
    (h : (name :: place, node) ∈ fs.nodes) : name ∈ fs.namesIn place :=
  List.mem_filterMap.2 ⟨_, h, if_pos rfl⟩

theorem node?_freshName (fs : FileSystem) (place : Place) :
    fs.node? (fs.freshName place :: place) = none := by
  rw [node?, if_neg (List.cons_ne_nil _ _), List.lookup_eq_none_iff]
  rintro ⟨taken, node⟩ hmem
  rw [bne_iff_ne]
  rintro rfl
  have hle := length_le_longestName (mem_namesIn hmem)
  rw [freshName, String.length_ofList, List.length_cons, List.length_replicate] at hle
  omega

def freshNaming : Naming := ⟨freshName, node?_freshName⟩

def fromRoot (fs : FileSystem) (path : String) : String :=
  if path.toList.head? = some '/' then path
  else String.join (fs.working.reverse.map fun name => "/" ++ name) ++ "/" ++ path

/-- The bytes that the name of a temporary file and the slash in front of it count for. -/
def temporaryNameSize : Nat := 11

/-- Makes an empty file of a new name in the directory at a path. The path of the file from the root
has to be within the limit. -/
def createTemporary (naming : Naming) (fs : FileSystem) (path : String) :
    Except FileFault (Place × FileSystem) :=
  if pathLimit < (Text.encode (fs.fromRoot path)).length + temporaryNameSize then
    .error .nameTooLong
  else
    match fs.walk path with
    | .error fault => .error fault
    | .ok (.free _) => .error .notFound
    | .ok (.at _ (.file _)) => .error .notADirectory
    | .ok (.at place .directory) =>
      let temporary := naming.name fs place :: place
      .ok (temporary, fs.set temporary (.file []))

end FileSystem

end DurableCalc
