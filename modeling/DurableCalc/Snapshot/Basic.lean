import DurableCalc.Text.Numeral

/-!
# Snapshots

A snapshot is all that a session keeps between two lines: the state of the generator, the command
line that is not fully handled yet, and the progress of the command it started. `Snapshot.fault?`
names the first bound that a snapshot breaks.
-/

namespace DurableCalc

structure SumProgress where
  first : Option Int64 := none
  second : Option Int64 := none
  deriving DecidableEq, Repr, Inhabited

structure MedianProgress where
  count : Option UInt32 := none
  values : List Int64 := []
  nextIndex : UInt64 := 0
  deriving DecidableEq, Repr, Inhabited

structure RandomProgress where
  count : Option UInt32 := none
  nextIndex : UInt32 := 0
  deriving DecidableEq, Repr, Inhabited

/-- How many lines `help` has written, of the introduction and of the current topic. -/
structure HelpProgress where
  topic : Option String := none
  introCursor : UInt64 := 0
  topicCursor : UInt64 := 0
  deriving DecidableEq, Repr, Inhabited

inductive Kind
  | sum
  | median
  | randomSequence
  | help
  deriving DecidableEq, Repr, Inhabited

def Kind.name : Kind → String
  | .sum => "sum"
  | .median => "median"
  | .randomSequence => "random_sequence"
  | .help => "help"

def Kind.commandName : Kind → String
  | .sum => "sum"
  | .median => "median"
  | .randomSequence => "random-sequence"
  | .help => "help"

inductive Progress
  | sum (p : SumProgress)
  | median (p : MedianProgress)
  | randomSequence (p : RandomProgress)
  | help (p : HelpProgress)
  deriving DecidableEq, Repr

def Progress.kind : Progress → Kind
  | .sum _ => .sum
  | .median _ => .median
  | .randomSequence _ => .randomSequence
  | .help _ => .help

def seed : Int64 := 420

structure Snapshot where
  rngState : Int64 := seed
  pendingInput : Option String := none
  command : Option Progress := none
  deriving DecidableEq, Repr

namespace Snapshot

def fresh : Snapshot := {}

instance : Inhabited Snapshot := ⟨fresh⟩

def sumProgress (s : Snapshot) : SumProgress :=
  match s.command with
  | some (.sum p) => p
  | _ => {}

def medianProgress (s : Snapshot) : MedianProgress :=
  match s.command with
  | some (.median p) => p
  | _ => {}

def randomProgress (s : Snapshot) : RandomProgress :=
  match s.command with
  | some (.randomSequence p) => p
  | _ => {}

def helpProgress (s : Snapshot) : HelpProgress :=
  match s.command with
  | some (.help p) => p
  | _ => {}

/-- The snapshot with another progress of its command. -/
def stage (p : Progress) (s : Snapshot) : Snapshot :=
  { s with command := some p }

def completed (s : Snapshot) : Snapshot :=
  { s with pendingInput := none, command := none }

def kindName (s : Snapshot) : String :=
  match s.command with
  | some p => p.kind.name
  | none => "idle"

def commandName? (s : Snapshot) : Option String :=
  s.command.map fun p => p.kind.commandName

end Snapshot

inductive SnapshotFault
  | medianCursor
  | randomCursor
  | topicCursor
  | missingInput
  deriving DecidableEq, Repr

def SnapshotFault.message : SnapshotFault → String
  | .medianCursor => "median cursor out of range"
  | .randomCursor => "random-sequence cursor out of range"
  | .topicCursor => "help topic cursor set without a topic"
  | .missingInput => "command progress saved without its input line"

/-- The bound that a progress breaks by itself. -/
def Progress.fault? : Progress → Option SnapshotFault
  | .sum _ => none
  | .median p =>
    if p.nextIndex.toNat ≠ p.values.length ∨ (p.count.getD 0).toNat < p.values.length then
      some .medianCursor
    else none
  | .randomSequence p => if p.count.getD 0 < p.nextIndex then some .randomCursor else none
  | .help p => if p.topic = none ∧ p.topicCursor ≠ 0 then some .topicCursor else none

/-- The first bound that a snapshot breaks: one of its progress, or that progress needs a pending
line. -/
def Snapshot.fault? (s : Snapshot) : Option SnapshotFault :=
  match s.command with
  | none => none
  | some p => p.fault?.or (if s.pendingInput = none then some .missingInput else none)

end DurableCalc
