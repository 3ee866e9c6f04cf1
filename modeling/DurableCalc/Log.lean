/-!
# The log

An entry has a level, a message and named fields. It is made by a part of the program, within the
spans of work that are under way: the session, and the command whose progress is being saved.
-/

namespace DurableCalc.Log

inductive Level
  | error
  | warn
  | info
  | debug
  | trace
  deriving DecidableEq, Repr

/-- How much is let through that is at least as severe as the level. -/
def Level.verbosity : Level → Nat
  | .error => 1
  | .warn => 2
  | .info => 3
  | .debug => 4
  | .trace => 5

def Level.name : Level → String
  | .error => "ERROR"
  | .warn => "WARN"
  | .info => "INFO"
  | .debug => "DEBUG"
  | .trace => "TRACE"

inductive Part
  | program
  | commandLine
  | session
  | checkpointer
  | fileSlot
  deriving DecidableEq, Repr

def Part.path : Part → String
  | .program => "stateful_calc"
  | .commandLine => "stateful_calc::cli"
  | .session => "stateful_calc::orchestrator::interpreter"
  | .checkpointer => "stateful_calc::orchestrator::checkpoint_manager"
  | .fileSlot => "stateful_calc::persistence::file_slot"

structure Span where
  part : Part
  name : String
  fields : List (String × String)
  deriving DecidableEq, Repr

def Span.session (runId : String) : Span :=
  { part := .program, name := "session", fields := [("run_id", runId)] }

def Span.command (name : String) : Span :=
  { part := .session, name := "command", fields := [("name", name)] }

def Span.level : Level := .info

inductive Field
  | text (value : String)
  | number (value : Int)
  deriving DecidableEq, Repr

structure Entry where
  level : Level
  part : Part
  message : String
  fields : List (String × Field) := []
  command : Option String := none
  deriving DecidableEq, Repr

namespace Entry

/-- The spans that an entry of a run was made within. -/
def spans (e : Entry) (runId : String) : List Span :=
  .session runId :: (e.command.map Span.command).toList

def fieldNames (e : Entry) : List String :=
  "message" :: e.fields.map Prod.fst

end Entry

end DurableCalc.Log
