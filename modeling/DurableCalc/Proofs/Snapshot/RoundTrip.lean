import DurableCalc.Snapshot.Envelope
import DurableCalc.Proofs.Json.Encoded
import DurableCalc.Proofs.Json.Style
import Mathlib.Data.Option.Basic

/-!
# Saved snapshots read back

A snapshot written in either layout is read as itself, whatever it holds. A saved one is decoded as
itself if it breaks no bound, and is refused for the bound that it breaks otherwise.
-/

namespace DurableCalc

open Json

theorem readIntIn?_writeInt {low high n : Int} (hlow : low ≤ n) (hhigh : n ≤ high) :
    readIntIn? low high (writeInt n) = some n := by
  simp [readIntIn?, readInt?_writeInt, hlow, hhigh]

theorem readInt64?_writeInt64 (n : Int64) : readInt64? (writeInt64 n) = some n := by
  rw [readInt64?, writeInt64, readIntIn?_writeInt n.minValue_le_toInt n.toInt_le]
  simp

theorem readUInt32?_writeUInt32 (n : UInt32) : readUInt32? (writeUInt32 n) = some n := by
  have hlt : n.toNat < UInt32.size := n.toNat_lt
  rw [readUInt32?, writeUInt32, readIntIn?_writeInt (by omega) (by omega)]
  simp

theorem readUInt64?_writeUInt64 (n : UInt64) : readUInt64? (writeUInt64 n) = some n := by
  have hlt : n.toNat < UInt64.size := n.toNat_lt
  rw [readUInt64?, writeUInt64, readIntIn?_writeInt (by omega) (by omega)]
  simp

theorem isBuffered_writeInt64 (depth : Nat) (n : Int64) :
    isBuffered depth (writeInt64 n) = true := by
  have hlow := n.le_toInt
  have hhigh := n.toInt_lt
  exact isBuffered_writeInt (by omega) depth

theorem isBuffered_writeUInt32 (depth : Nat) (n : UInt32) :
    isBuffered depth (writeUInt32 n) = true := by
  have := n.toNat_lt
  exact isBuffered_writeInt (by omega) depth

theorem isBuffered_writeUInt64 (depth : Nat) (n : UInt64) :
    isBuffered depth (writeUInt64 n) = true := by
  have := n.toNat_lt
  exact isBuffered_writeInt (by omega) depth

theorem optional?_writeOptional {write : α → Bytes} {read? : Bytes → Option α}
    (hread : ∀ value, read? (write value) = some value) (hnull : ∀ value, write value ≠ null)
    (value : Option α) : Json.optional? read? (writeOptional write value) = some value := by
  cases value with
  | none => rfl
  | some value => simp [Json.optional?, writeOptional, hread, hnull]

theorem writeInt_ne_null (n : Int) : writeInt n ≠ null := by
  obtain ⟨b, rest, hn, hb⟩ := head_writeInt n
  rw [hn]
  intro h
  obtain ⟨rfl, _⟩ := List.cons.inj h
  exact absurd hb (by decide)

theorem writeText_ne_null (text : String) : writeText text ≠ null := by
  rw [writeText_eq]
  intro h
  cases h

theorem isJson_writeInt64 (n : Int64) : IsJson (writeInt64 n) := isJson_writeInt _

theorem optional?_writeInt64 (value : Option Int64) :
    Json.optional? readInt64? (writeOptional writeInt64 value) = some value :=
  optional?_writeOptional readInt64?_writeInt64 (fun _ => writeInt_ne_null _) value

theorem optional?_writeUInt32 (value : Option UInt32) :
    Json.optional? readUInt32? (writeOptional writeUInt32 value) = some value :=
  optional?_writeOptional readUInt32?_writeUInt32 (fun _ => writeInt_ne_null _) value

theorem optional?_writeText (value : Option String) :
    Json.optional? readText? (writeOptional writeText value) = some value :=
  optional?_writeOptional readText?_writeText writeText_ne_null value

namespace Progress

structure IsWritten (v : Bytes) : Prop where
  isJson : IsJson v
  isBuffered : Json.isBuffered 125 v = true

theorem isWritten_optionalInt64 (value : Option Int64) :
    IsWritten (writeOptional writeInt64 value) :=
  ⟨isJson_writeOptional isJson_writeInt64 value,
    isBuffered_writeOptional (isBuffered_writeInt64 125) value⟩

theorem isWritten_optionalUInt32 (value : Option UInt32) :
    IsWritten (writeOptional writeUInt32 value) :=
  ⟨isJson_writeOptional (fun _ => isJson_writeInt _) value,
    isBuffered_writeOptional (isBuffered_writeUInt32 125) value⟩

theorem isWritten_optionalText (value : Option String) :
    IsWritten (writeOptional writeText value) :=
  ⟨isJson_writeOptional isJson_writeText value,
    isBuffered_writeOptional (fun text => isBuffered_writeText text 125) value⟩

theorem isWritten_uint32 (n : UInt32) : IsWritten (writeUInt32 n) :=
  ⟨isJson_writeInt _, isBuffered_writeUInt32 125 n⟩

theorem isWritten_uint64 (n : UInt64) : IsWritten (writeUInt64 n) :=
  ⟨isJson_writeInt _, isBuffered_writeUInt64 125 n⟩

theorem isWritten_values (style : Style) (depth : Nat) (values : List Int64) :
    IsWritten (style.array depth (values.map writeInt64)) := by
  have hjson : ∀ v ∈ values.map writeInt64, IsJson v :=
    List.forall_mem_map.2 fun n _ => isJson_writeInt64 n
  have hbuffered : ∀ v ∈ values.map writeInt64, isBuffered 124 v = true :=
    List.forall_mem_map.2 fun n _ => isBuffered_writeInt64 124 n
  exact ⟨isJson_array style depth hjson,
    isBuffered_array style depth (fun v hv => (hjson v hv).isValue) hbuffered⟩

theorem isWritten_members (style : Style) (depth : Nat) (p : Progress) :
    ∀ m ∈ ("kind", writeText p.kind.name) :: p.members style depth, IsWritten m.2 := by
  have hkind : IsWritten (writeText p.kind.name) := isWritten_optionalText (some p.kind.name)
  cases p with
  | sum p =>
    simpa [members, isWritten_optionalInt64] using hkind
  | median p =>
    simpa [members, isWritten_optionalUInt32, isWritten_values, isWritten_uint64] using hkind
  | randomSequence p =>
    simpa [members, isWritten_optionalUInt32, isWritten_uint32] using hkind
  | help p =>
    simpa [members, isWritten_optionalText, isWritten_uint64] using hkind

theorem isJson_write (style : Style) (depth : Nat) (p : Progress) : IsJson (p.write style depth) :=
  isJson_object style depth fun m hm => (isWritten_members style depth p m hm).isJson

theorem isBuffered_write (style : Style) (depth : Nat) (p : Progress) :
    isBuffered nestingLimit (p.write style depth) = true :=
  isBuffered_object style depth (fun m hm => (isWritten_members style depth p m hm).isJson.isValue)
    fun m hm => (isWritten_members style depth p m hm).isBuffered

theorem write_ne_null (style : Style) (depth : Nat) (p : Progress) :
    p.write style depth ≠ null := by
  obtain ⟨rest, hrest⟩ := exists_enclose_eq_cons style depth 0x7b 0x7d
    ((("kind", writeText p.kind.name) :: p.members style depth).map
      fun m => writeText m.1 ++ style.colon ++ m.2)
  rw [write, Style.object, hrest]
  intro h
  cases h

theorem readFields?_members (style : Style) (depth : Nat) (p : Progress) :
    readFields? p.kind.name (.keyed (p.members style depth)) = some p := by
  cases p with
  | sum p =>
    simp [readFields?, Progress.kind, Kind.name, members, Record.pick, uniqueValue?,
      Field.optional?, optional?_writeInt64]
  | median p =>
    have hvalues :=
      readList?_array style (depth + 1) (fun n => (isJson_writeInt64 n).isValue)
        readInt64?_writeInt64 p.values
    simp [readFields?, Progress.kind, Kind.name, members, Record.pick, uniqueValue?,
      Field.optional?, Field.required?, optional?_writeUInt32, hvalues, readUInt64?_writeUInt64]
  | randomSequence p =>
    simp [readFields?, Progress.kind, Kind.name, members, Record.pick, uniqueValue?,
      Field.optional?, Field.required?, optional?_writeUInt32, readUInt32?_writeUInt32]
  | help p =>
    simp [readFields?, Progress.kind, Kind.name, members, Record.pick, uniqueValue?,
      Field.optional?, Field.required?, optional?_writeText, readUInt64?_writeUInt64]

theorem read?_write (style : Style) (depth : Nat) (p : Progress) :
    read? (p.write style depth) = some p := by
  have hrecord : Record.read? (p.write style depth) =
      some (.keyed (("kind", writeText p.kind.name) :: p.members style depth)) :=
    read?_object style depth fun m hm => (isWritten_members style depth p m hm).isJson.isValue
  have huntag :
      (Record.keyed (("kind", writeText p.kind.name) :: p.members style depth)).untag "kind" =
        some (writeText p.kind.name, .keyed (p.members style depth)) := by
    cases p <;> rfl
  simp [read?, isBuffered_write, hrecord, huntag, readText?_writeText, readFields?_members]

end Progress

namespace Snapshot

theorem isJson_members (style : Style) (s : Snapshot) :
    ∀ m ∈ [("rng_state", writeInt64 s.rngState),
      ("pending_input", writeOptional writeText s.pendingInput),
      ("command", writeOptional (Progress.write style 1) s.command)], IsJson m.2 := by
  simp only [List.forall_mem_cons, List.not_mem_nil, false_implies, implies_true, and_true]
  exact ⟨isJson_writeInt64 _, isJson_writeOptional isJson_writeText _,
    isJson_writeOptional (Progress.isJson_write style 1) _⟩

theorem isJson_write (style : Style) (s : Snapshot) : IsJson (s.write style) :=
  isJson_object style 0 (isJson_members style s)

theorem read?_write (style : Style) (s : Snapshot) : read? (s.write style) = some s := by
  have hrecord := read?_object style 0 fun m hm => (isJson_members style s m hm).isValue
  have hcommand : Json.optional? Progress.read? (writeOptional (Progress.write style 1) s.command) =
      some s.command :=
    optional?_writeOptional (Progress.read?_write style 1) (Progress.write_ne_null style 1)
      s.command
  unfold read? write
  rw [hrecord]
  simp [Record.pick, uniqueValue?, Field.optional?, Field.required?, readInt64?_writeInt64,
    optional?_writeText, hcommand]

end Snapshot

namespace Envelope

theorem isJson_members {e : Envelope} (h : IsJson e.state) :
    ∀ m ∈ [("version", writeUInt32 e.version), ("checksum", writeText e.checksum),
      ("state", e.state)], IsJson m.2 := by
  simp only [List.forall_mem_cons, List.not_mem_nil, false_implies, implies_true, and_true]
  exact ⟨isJson_writeInt _, isJson_writeText _, h⟩

theorem isJson_write {e : Envelope} (h : IsJson e.state) : IsJson e.write :=
  isJson_object .compact 0 (isJson_members h)

theorem read?_write {e : Envelope} (h : IsJson e.state) : read? e.write = some e := by
  have hrecord : Record.read? e.write = some (.keyed [("version", writeUInt32 e.version),
      ("checksum", writeText e.checksum), ("state", e.state)]) :=
    read?_object .compact 0 fun m hm => (isJson_members h m hm).isValue
  simp [read?, document?_eq_self (isJson_write h).isValue, hrecord, Record.pick, uniqueValue?,
    Field.required?, readUInt32?_writeUInt32, readText?_writeText, h.isEncoded.isSome_decode?]

end Envelope

namespace Snapshot

theorem openSnapshot_ofState (s : Snapshot) :
    (Envelope.ofState (s.write .compact)).openSnapshot =
      match s.fault? with
      | some fault => .error (.outOfBounds fault)
      | none => .ok s := by
  cases hfault : s.fault? with
  | none => simp [Envelope.openSnapshot, Envelope.ofState, read?_write, hfault]
  | some fault => simp [Envelope.openSnapshot, Envelope.ofState, read?_write, hfault]

theorem encode_ne_nil (s : Snapshot) : s.encode ≠ [] := by
  have hjson : IsJson s.encode := Envelope.isJson_write (isJson_write .compact s)
  obtain ⟨b, rest, h, _⟩ := hjson.isValue.starts
  rw [h]
  exact List.cons_ne_nil _ _

theorem read?_encode (s : Snapshot) :
    Envelope.read? s.encode = some (.ofState (s.write .compact)) :=
  Envelope.read?_write (isJson_write .compact s)

theorem decode_of_read? {blob : Bytes} {e : Envelope} (h : Envelope.read? blob = some e) :
    decode blob = e.openSnapshot.map some := by
  have hempty : blob.isEmpty = false := by
    cases blob with
    | nil => cases h
    | cons b rest => rfl
  simp only [decode, hempty, h, Bool.false_eq_true, if_false]

/-- A saved snapshot is decoded as itself, unless it breaks a bound. -/
theorem decode_encode (s : Snapshot) :
    decode s.encode =
      match s.fault? with
      | some fault => .error (.outOfBounds fault)
      | none => .ok (some s) := by
  rw [decode_of_read? s.read?_encode, openSnapshot_ofState]
  cases s.fault? <;> rfl

theorem ofText?_write (s : Snapshot) : ofText? (s.write .compact) = some s := by
  rw [ofText?, document?_eq_self (isJson_write .compact s).isValue, Option.bind_some,
    read?_write .compact s]

theorem encode_inj : Function.Injective encode := by
  intro s s' h
  have hread : some (Envelope.ofState (s.write .compact)) =
      some (.ofState (s'.write .compact)) := by
    rw [← read?_encode, ← read?_encode, h]
  have hstate : s.write .compact = s'.write .compact :=
    congrArg Envelope.state (Option.some.inj hread)
  have htext : some s = some s' := by
    rw [← ofText?_write, ← ofText?_write, hstate]
  exact Option.some.inj htext

/-- What is saved for a snapshot holds it and nothing else. The blob is not empty; its envelope is
of the format's version and has the checksum of its state's text; that text spells the snapshot. The
blob is decoded as the snapshot, or refused for the bound that the snapshot breaks. So no two
snapshots are saved alike, and a blob that is decoded is saved again byte for byte. -/
theorem encode_readsBack :
    (∀ s : Snapshot,
      s.encode ≠ [] ∧
      (∃ e, Envelope.read? s.encode = some e ∧ e.version = formatVersion ∧
        e.checksum = Sha256.hex e.state ∧ ofText? e.state = some s) ∧
      (decode s.encode =
        match s.fault? with
        | some fault => .error (.outOfBounds fault)
        | none => .ok (some s)) ∧
      (decode s.encode).map (Option.map encode) =
        match s.fault? with
        | some fault => .error (.outOfBounds fault)
        | none => .ok (some s.encode)) ∧
    Function.Injective encode := by
  refine ⟨fun s => ⟨s.encode_ne_nil, ?_, s.decode_encode, ?_⟩, encode_inj⟩
  · exact ⟨_, s.read?_encode, rfl, rfl, s.ofText?_write⟩
  · rw [decode_encode]
    cases s.fault? <;> rfl

/-- The snapshot from which a session goes on that finds a blob in its slot. -/
def restore (blob : Bytes) : Except DecodeError Snapshot :=
  (decode blob).map fun s => s.getD .fresh

@[simp] theorem restore_nil : restore [] = .ok .fresh := rfl

theorem restore_encode {s : Snapshot} (hfault : s.fault? = none) : restore s.encode = .ok s := by
  rw [restore, decode_encode, hfault]
  rfl

theorem decode_of_restore {blob : Bytes} {s : Snapshot} (h : restore blob = .ok s) :
    s = .fresh ∨ decode blob = .ok (some s) := by
  cases hdecode : decode blob with
  | error error => simp [restore, hdecode, Except.map] at h
  | ok held =>
    cases held with
    | none => exact .inl (by simpa [restore, hdecode, Except.map, eq_comm] using h)
    | some s' => exact .inr (by simpa [restore, hdecode, Except.map] using h)

theorem fault?_of_restore {blob : Bytes} {s : Snapshot} (h : restore blob = .ok s) :
    s.fault? = none := by
  unfold restore decode at h
  split at h
  · cases h
    rfl
  split at h
  · cases h
  rename_i e _
  unfold Envelope.openSnapshot at h
  split at h
  · cases h
  split at h
  · cases h
  split at h
  · cases h
  split at h
  · cases h
  · rename_i hfault
    cases h
    exact hfault

end Snapshot

end DurableCalc
