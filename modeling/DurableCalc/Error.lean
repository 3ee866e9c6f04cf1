import DurableCalc.Snapshot.Envelope
import DurableCalc.Text.Quoted

/-!
# Errors

Every error is a cause in one of seven categories. Its report is the category together with a
detail text, shown with a label in front (`input: 1 + 2 overflows`) or as a term (`Input("1 + 2
overflows")`).
-/

namespace DurableCalc

inductive ConfigError
  | unreadable
  | invalid
  | zeroMaxCount
  | emptyStatePath
  | blankLogFilter
  /-- An action on saved state has no memory to look at in a new process. -/
  | needsPersistence (action : String)
  deriving DecidableEq, Repr

def ConfigError.message : ConfigError → String
  | .unreadable => "failed to read config"
  | .invalid => "invalid config"
  | .zeroMaxCount => "max_count must be greater than zero"
  | .emptyStatePath => "state_path must not be empty"
  | .blankLogFilter => "log_filter must not be empty"
  | .needsPersistence action => action ++ " needs persistent state, but storage is \"memory\""

inductive StorageError
  | read (path reason : String)
  | createDirectory (path reason : String)
  | createTemporary (reason : String)
  | writeTemporary (reason : String)
  | syncTemporary (reason : String)
  | replace (path reason : String)
  | refused (reason : String)
  deriving DecidableEq, Repr

def StorageError.message : StorageError → String
  | .read path reason => "failed to read " ++ path ++ ": " ++ reason
  | .createDirectory path reason => "failed to create state directory " ++ path ++ ": " ++ reason
  | .createTemporary reason => "failed to create temporary file: " ++ reason
  | .writeTemporary reason => "failed to write temporary file: " ++ reason
  | .syncTemporary reason => "failed to sync temporary file: " ++ reason
  | .replace path reason => "failed to persist state to " ++ path ++ ": " ++ reason
  | .refused reason => reason

inductive SnapshotError
  | decode (error : DecodeError)
  /-- The saved progress is not that of the command which the pending line names. -/
  | foreignProgress (kind : Kind) (name : String)
  /-- A cursor of `help` is past the end of its block. -/
  | helpCursor (intro introLength topic topicLength : Nat)
  | unwritable (reason : String)
  deriving DecidableEq, Repr

def SnapshotError.message : SnapshotError → String
  | .decode error => error.message
  | .foreignProgress kind name =>
    "saved " ++ kind.name ++ " progress does not belong to pending input " ++ Text.quote name
  | .helpCursor intro introLength topic topicLength =>
    "help cursor out of range: intro " ++ Text.decimal intro ++ "/" ++ Text.decimal introLength ++
      ", topic " ++ Text.decimal topic ++ "/" ++ Text.decimal topicLength
  | .unwritable reason => reason

inductive ChannelError
  | read (reason : String)
  | write (reason : String)
  | refused (reason : String)
  deriving DecidableEq, Repr

def ChannelError.message : ChannelError → String
  | .read reason => "read failed: " ++ reason
  | .write reason => "write failed: " ++ reason
  | .refused reason => reason

inductive InputError
  | notAnInteger (text : String) (error : Text.NumeralError)
  | countOutOfRange (maxCount : UInt32) (value : Int64)
  | overflow (first second : Int64)
  deriving DecidableEq, Repr

def InputError.message : InputError → String
  | .notAnInteger text error =>
    "expected an integer, got " ++ Text.quote text ++ ": " ++ error.message
  | .countOutOfRange maxCount value =>
    "count must be between 0 and " ++ Text.decimal maxCount.toNat ++ ", got " ++
      Text.decimal value.toInt
  | .overflow first second =>
    Text.decimal first.toInt ++ " + " ++ Text.decimal second.toInt ++ " overflows"

inductive Error
  | config (error : ConfigError)
  | storage (error : StorageError)
  | snapshot (error : SnapshotError)
  | channel (error : ChannelError)
  | endOfInput
  | input (error : InputError)
  | io (reason : String)
  deriving DecidableEq, Repr

inductive Category
  | config
  | storage
  | snapshot
  | channel
  | endOfInput
  | input
  | io
  deriving DecidableEq, Repr

def Category.all : List Category :=
  [.config, .storage, .snapshot, .channel, .endOfInput, .input, .io]

def Category.name : Category → String
  | .config => "Config"
  | .storage => "Storage"
  | .snapshot => "Snapshot"
  | .channel => "Channel"
  | .endOfInput => "EndOfInput"
  | .input => "Input"
  | .io => "Io"

/-- What stands in front of the detail; the end of the input is told as a matter of the channel. -/
def Category.label : Category → String
  | .config => "config"
  | .storage => "storage"
  | .snapshot => "snapshot"
  | .channel => "channel"
  | .endOfInput => "channel"
  | .input => "input"
  | .io => "io"

structure Report where
  category : Category
  detail : String
  deriving DecidableEq, Repr

/-- The report of a category; the end of the input has one detail only. -/
def Report.of (category : Category) (detail : String) : Report :=
  match category with
  | .endOfInput => ⟨.endOfInput, "end of input"⟩
  | category => ⟨category, detail⟩

def Report.text (r : Report) : String :=
  r.category.label ++ ": " ++ r.detail

def Report.term (r : Report) : String :=
  match r.category with
  | .endOfInput => r.category.name
  | category => category.name ++ "(" ++ Text.quote r.detail ++ ")"

def Error.report : Error → Report
  | .config error => .of .config error.message
  | .storage error => .of .storage error.message
  | .snapshot error => .of .snapshot error.message
  | .channel error => .of .channel error.message
  | .endOfInput => .of .endOfInput ""
  | .input error => .of .input error.message
  | .io reason => .of .io reason

def Error.message (e : Error) : String :=
  e.report.text

end DurableCalc
