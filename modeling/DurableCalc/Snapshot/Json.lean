import DurableCalc.Snapshot.Basic
import DurableCalc.Json.Record
import DurableCalc.Json.Style

/-!
# Snapshots as JSON

`Snapshot.write` writes a snapshot in one of the two layouts and `Snapshot.read?` reads it, in any
spelling: keys in any order, further keys ignored, absent optional fields taken as `null`, or the
values alone in an array. The progress of a command is told by its `kind`, which is read wherever it
stands, so that all of it has to be buffered first.
-/

namespace DurableCalc

open Json

def writeInt64 (n : Int64) : Bytes :=
  writeInt n.toInt

def writeUInt32 (n : UInt32) : Bytes :=
  writeInt n.toNat

def writeUInt64 (n : UInt64) : Bytes :=
  writeInt n.toNat

def readInt64? (value : Bytes) : Option Int64 :=
  (readIntIn? Int64.minValue.toInt Int64.maxValue.toInt value).map Int64.ofInt

def readUInt32? (value : Bytes) : Option UInt32 :=
  (readIntIn? 0 (UInt32.size - 1) value).map fun n => n.toNat.toUInt32

def readUInt64? (value : Bytes) : Option UInt64 :=
  (readIntIn? 0 (UInt64.size - 1) value).map fun n => n.toNat.toUInt64

def Progress.members (style : Style) (depth : Nat) : Progress → List (String × Bytes)
  | .sum p =>
    [("first", writeOptional writeInt64 p.first), ("second", writeOptional writeInt64 p.second)]
  | .median p =>
    [("count", writeOptional writeUInt32 p.count),
      ("values", style.array (depth + 1) (p.values.map writeInt64)),
      ("next_index", writeUInt64 p.nextIndex)]
  | .randomSequence p =>
    [("count", writeOptional writeUInt32 p.count), ("next_index", writeUInt32 p.nextIndex)]
  | .help p =>
    [("topic", writeOptional writeText p.topic), ("intro_cursor", writeUInt64 p.introCursor),
      ("topic_cursor", writeUInt64 p.topicCursor)]

def Progress.write (style : Style) (depth : Nat) (p : Progress) : Bytes :=
  style.object depth (("kind", writeText p.kind.name) :: p.members style depth)

def Snapshot.write (style : Style) (s : Snapshot) : Bytes :=
  style.object 0
    [("rng_state", writeInt64 s.rngState),
      ("pending_input", writeOptional writeText s.pendingInput),
      ("command", writeOptional (Progress.write style 1) s.command)]

def Progress.readFields? (kind : String) (record : Record) : Option Progress :=
  match kind with
  | "sum" => do
    let [first, second] ← record.pick ["first", "second"] | none
    return .sum
      { first := ← Field.optional? readInt64? first
        second := ← Field.optional? readInt64? second }
  | "median" => do
    let [count, values, nextIndex] ← record.pick ["count", "values", "next_index"] | none
    return .median
      { count := ← Field.optional? readUInt32? count
        values := ← Field.required? (readList? readInt64?) values
        nextIndex := ← Field.required? readUInt64? nextIndex }
  | "random_sequence" => do
    let [count, nextIndex] ← record.pick ["count", "next_index"] | none
    return .randomSequence
      { count := ← Field.optional? readUInt32? count
        nextIndex := ← Field.required? readUInt32? nextIndex }
  | "help" => do
    let [topic, introCursor, topicCursor] ←
      record.pick ["topic", "intro_cursor", "topic_cursor"] | none
    return .help
      { topic := ← Field.optional? readText? topic
        introCursor := ← Field.required? readUInt64? introCursor
        topicCursor := ← Field.required? readUInt64? topicCursor }
  | _ => none

/-- How deep the progress may nest: 127 containers in all, the snapshot itself being one. -/
def Progress.nestingLimit : Nat := 126

def Progress.read? (value : Bytes) : Option Progress := do
  guard (isBuffered nestingLimit value)
  let (kind, record) ← (← Record.read? value).untag "kind"
  readFields? (← readText? kind) record

def Snapshot.read? (value : Bytes) : Option Snapshot := do
  let [rngState, pendingInput, command] ←
    (← Record.read? value).pick ["rng_state", "pending_input", "command"] | none
  return {
    rngState := ← Field.required? readInt64? rngState
    pendingInput := ← Field.optional? readText? pendingInput
    command := ← Field.optional? Progress.read? command }

def Snapshot.ofText? (text : Bytes) : Option Snapshot :=
  (document? text).bind Snapshot.read?

end DurableCalc
