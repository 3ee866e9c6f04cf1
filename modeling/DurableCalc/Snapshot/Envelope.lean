import DurableCalc.Snapshot.Json
import DurableCalc.Digest.Sha256

/-!
# Saved snapshots

A saved snapshot is a JSON object of a version, a checksum and a state. The checksum is the SHA-256
digest of the state's text, byte for byte. The empty byte string stands for "nothing saved".
-/

namespace DurableCalc

open Json

inductive DecodeError
  /-- It is not the JSON text of an envelope, or its state is not that of a snapshot. -/
  | malformed
  | unsupportedVersion (version : UInt32)
  | checksumMismatch (expected actual : String)
  | outOfBounds (fault : SnapshotFault)
  deriving DecidableEq, Repr

def DecodeError.message : DecodeError → String
  | .malformed => "malformed JSON"
  | .unsupportedVersion version =>
    "unsupported snapshot version " ++ Text.decimal version.toNat
  | .checksumMismatch expected actual =>
    "checksum mismatch: expected " ++ expected ++ ", got " ++ actual
  | .outOfBounds fault => fault.message

def formatVersion : UInt32 := 1

/-- The members of an envelope, with the state's text as it was written. -/
structure Envelope where
  version : UInt32
  checksum : String
  state : Bytes
  deriving DecidableEq, Repr

namespace Envelope

def ofState (state : Bytes) : Envelope :=
  ⟨formatVersion, Sha256.hex state, state⟩

def write (e : Envelope) : Bytes :=
  Style.compact.object 0
    [("version", writeUInt32 e.version), ("checksum", writeText e.checksum), ("state", e.state)]

def read? (bytes : Bytes) : Option Envelope := do
  let [version, checksum, state] ←
    (← Record.read? (← document? bytes)).pick ["version", "checksum", "state"] | none
  let state ← state
  guard (Text.decode? state).isSome
  return {
    version := ← Field.required? readUInt32? version
    checksum := ← Field.required? readText? checksum
    state }

def openSnapshot (e : Envelope) : Except DecodeError Snapshot :=
  if e.version ≠ formatVersion then .error (.unsupportedVersion e.version)
  else if Sha256.hex e.state ≠ e.checksum then
    .error (.checksumMismatch e.checksum (Sha256.hex e.state))
  else
    match Snapshot.read? e.state with
    | none => .error .malformed
    | some s =>
      match s.fault? with
      | some fault => .error (.outOfBounds fault)
      | none => .ok s

end Envelope

def Snapshot.encode (s : Snapshot) : Bytes :=
  (Envelope.ofState (s.write .compact)).write

/-- The snapshot that a blob holds, if it holds one. -/
def Snapshot.decode (blob : Bytes) : Except DecodeError (Option Snapshot) :=
  if blob.isEmpty then .ok none
  else
    match Envelope.read? blob with
    | none => .error .malformed
    | some e => e.openSnapshot.map some

end DurableCalc
