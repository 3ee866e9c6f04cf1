import DurableCalc.Error
import DurableCalc.Text.Blank
import DurableCalc.Toml.Document

/-!
# Configurations

A configuration says where the state is saved, how many numbers a command may take, and what is
logged. It comes from a TOML document, each of whose four keys may be missing, and is valid if its
limit is not zero and its texts are not empty. The state's path can be overridden afterwards, from
the environment and from the command line.
-/

namespace DurableCalc

inductive Storage
  | file
  | memory
  deriving DecidableEq, Repr

def Storage.keyword : Storage → String
  | .file => "file"
  | .memory => "memory"

def Storage.name : Storage → String
  | .file => "File"
  | .memory => "Memory"

structure Config where
  statePath : String := ".stateful-calc/state.json"
  storage : Storage := .file
  maxCount : UInt32 := 1000000
  logFilter : String := "info"
  deriving DecidableEq, Repr

namespace Config

def field (read? : Toml.Item → Option α) (default : α) (key : String) (members : Toml.Members) :
    Option α :=
  match members.lookup key with
  | none => some default
  | some item => read? item

def readString? : Toml.Item → Option String
  | .string text => some text
  | _ => none

def readCount? : Toml.Item → Option UInt32
  | .integer n => if 0 ≤ n ∧ n < UInt32.size then some n.toNat.toUInt32 else none
  | _ => none

def storageOf? (keyword : String) : Option Storage :=
  [.file, .memory].find? fun (s : Storage) => s.keyword == keyword

/-- Reads a storage: its keyword, or a table with that key alone and nothing in it. -/
def readStorage? : Toml.Item → Option Storage
  | .string keyword => storageOf? keyword
  | .table _ [(keyword, .array true)] => storageOf? keyword
  | .table _ [(keyword, .table _ [])] => storageOf? keyword
  | _ => none

/-- The configuration that a document gives, valid or not. -/
def ofMembers? (members : Toml.Members) : Option Config := do
  return {
    statePath := ← field readString? ({} : Config).statePath "state_path" members
    storage := ← field readStorage? ({} : Config).storage "storage" members
    maxCount := ← field readCount? ({} : Config).maxCount "max_count" members
    logFilter := ← field readString? ({} : Config).logFilter "log_filter" members }

/-- The first rule that a configuration breaks. -/
def fault? (c : Config) : Option ConfigError :=
  if c.maxCount = 0 then some .zeroMaxCount
  else if c.statePath.isEmpty then some .emptyStatePath
  else if (Text.trim c.logFilter).isEmpty then some .blankLogFilter
  else none

def ofToml (text : String) : Except ConfigError Config :=
  match (Toml.read? text).bind ofMembers? with
  | none => .error .invalid
  | some c =>
    match c.fault? with
    | some fault => .error fault
    | none => .ok c

def ofFile (contents : Option Bytes) : Except ConfigError Config :=
  match contents.bind Text.decode? with
  | none => .error .unreadable
  | some text => ofToml text

/-- The configuration with the path that the environment sets, unless that is blank. -/
def override (setting : Option String) (c : Config) : Config :=
  match setting with
  | none => c
  | some path => if (Text.trim path).isEmpty then c else { c with statePath := path }

end Config

end DurableCalc
