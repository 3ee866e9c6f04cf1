import DurableCalc.Proofs.Snapshot.RoundTrip

/-!
# Envelopes in any layout

An envelope may be laid out in many ways: its members stand in any order, with any blanks and any
further members between them. What it is decoded as depends on its version, its checksum and the
bytes of its state's text, and on nothing else. So the text of a state cannot be exchanged for one
of another digest.
-/

namespace DurableCalc

open Json

/-- A layout of an envelope: an object without the value of its state. -/
structure Layout where
  before : Bytes := []
  /-- The members in front of the state, each with the text that its key stands for. -/
  earlier : List (String × Member) := []
  /-- The member of the state, whose value is put in. -/
  state : Member
  later : List (String × Member) := []
  closing : Bytes := []
  after : Bytes := []

namespace Layout

def members (l : Layout) (state : Bytes) : List (String × Member) :=
  l.earlier ++ ("state", { l.state with value := state }) :: l.later

def text (l : Layout) (state : Bytes) : Bytes :=
  l.before ++ (objectText l.closing ((l.members state).map (·.2)) ++ l.after)

/-- A layout of an envelope with this version and this checksum. Each of them stands once, and the
state too. -/
structure Gives (l : Layout) (version : UInt32) (checksum : String) : Prop where
  blank : AllBlank l.before ∧ AllBlank l.closing ∧ AllBlank l.after
  state : l.state.IsSpaced ∧ Spells l.state.key "state".toList
  wellFormed : ∀ m ∈ l.earlier ++ l.later,
    m.2.IsSpaced ∧ Spells m.2.key m.1.toList ∧ IsJson m.2.value
  once : ∃ v c others,
    (l.earlier ++ l.later).Perm (("version", v) :: ("checksum", c) :: others) ∧
      (∀ m ∈ others, m.1 ∉ ["version", "checksum", "state"]) ∧
      (IsWhole v.value ∧ digitsValue v.value = version.toNat) ∧
      ∃ s, c.value = quoted s ∧ Spells s checksum.toList

variable {l : Layout} {version : UInt32} {checksum : String} {state : Bytes}

theorem Gives.members_wellFormed (h : l.Gives version checksum) (hstate : IsJson state) :
    ∀ m ∈ l.members state, m.2.IsSpaced ∧ Spells m.2.key m.1.toList ∧ IsJson m.2.value := by
  intro m hm
  rcases List.mem_append.1 hm with hm | hm
  · exact h.wellFormed m (List.mem_append_left _ hm)
  rcases List.mem_cons.1 hm with rfl | hm
  · exact ⟨h.state.1, h.state.2, hstate⟩
  · exact h.wellFormed m (List.mem_append_right _ hm)

theorem Gives.isJson_object (h : l.Gives version checksum) (hstate : IsJson state) :
    IsJson (objectText l.closing ((l.members state).map (·.2))) := by
  have hmembers := h.members_wellFormed hstate
  apply IsJson.object h.blank.2.1
  · exact List.forall_mem_map.2 fun m hm => (hmembers m hm).1
  · exact List.forall_mem_map.2 fun m hm => (hmembers m hm).2.1.isInside
  · exact List.forall_mem_map.2 fun m hm => (hmembers m hm).2.2

theorem Gives.read?_record (h : l.Gives version checksum) (hstate : IsJson state) :
    Record.read? (objectText l.closing ((l.members state).map (·.2))) =
      some (.keyed ((l.members state).map fun m => (m.1, m.2.value))) := by
  have hmembers := h.members_wellFormed hstate
  apply read?_objectText h.blank.2.1
  · intro m hm
    obtain ⟨hspaced, hkey, hvalue⟩ := hmembers m hm
    exact ⟨hspaced, hkey.isInside, hvalue.isValue⟩
  · exact fun m hm => (hmembers m hm).2.1

end Layout

namespace Envelope

variable {version : UInt32} {checksum : String} {state : Bytes}

theorem openSnapshot_of_version (h : version ≠ formatVersion) :
    openSnapshot ⟨version, checksum, state⟩ = .error (.unsupportedVersion version) := if_pos h

theorem openSnapshot_of_checksum (hversion : version = formatVersion)
    (h : Sha256.hex state ≠ checksum) :
    openSnapshot ⟨version, checksum, state⟩ =
      .error (.checksumMismatch checksum (Sha256.hex state)) := by
  rw [openSnapshot, if_neg fun hne => hne hversion, if_pos h]

/-- Past its version and its checksum, an envelope is decided by its state. -/
theorem openSnapshot_of_matches (hversion : version = formatVersion)
    (h : Sha256.hex state = checksum) (hstate : IsJson state) :
    openSnapshot ⟨version, checksum, state⟩ =
      match Snapshot.ofText? state with
      | none => .error .malformed
      | some s =>
        match s.fault? with
        | some fault => .error (.outOfBounds fault)
        | none => .ok s := by
  rw [openSnapshot, if_neg fun hne => hne hversion, if_neg fun hne => hne h, Snapshot.ofText?,
    document?_eq_self hstate.isValue]
  rfl

theorem readUInt32?_of_isWhole {w : Bytes} {n : UInt32} (h : IsWhole w)
    (hvalue : digitsValue w = n.toNat) : readUInt32? w = some n := by
  have hhigh : (n.toNat : Int) ≤ 4294967295 := by
    have := n.toNat_lt
    omega
  have hread : readIntIn? 0 (UInt32.size - 1) w = some (n.toNat : Int) := by
    simp [readIntIn?, readInt?_of_isWhole h, hvalue, hhigh]
  rw [readUInt32?, hread]
  simp

/-- Whatever its layout, an envelope is read as its version, its checksum and the text of its
state. -/
theorem read?_text {l : Layout} (h : l.Gives version checksum) (hstate : IsJson state) :
    read? (l.text state) = some ⟨version, checksum, state⟩ := by
  obtain ⟨v, c, others, hperm, hothers, ⟨hwhole, hversion⟩, s, hquoted, hspells⟩ := h.once
  have hdocument : document? (l.text state) =
      some (objectText l.closing ((l.members state).map (·.2))) :=
    document?_spaced h.blank.1 (h.isJson_object hstate).isValue h.blank.2.2
  have hmembers : (l.members state).Perm
      (("version", v) :: ("checksum", c) :: ("state", { l.state with value := state }) ::
        others) := by
    refine List.perm_middle.trans ((hperm.cons _).trans ?_)
    exact (List.Perm.swap _ _ _).trans ((List.Perm.swap _ _ _).cons _)
  let fields := [("version", v.value), ("checksum", c.value), ("state", state)]
  have hvalues : ((l.members state).map fun m => (m.1, m.2.value)).Perm
      (fields ++ others.map fun m => (m.1, m.2.value)) := hmembers.map _
  have hpick : (Record.keyed ((l.members state).map fun m => (m.1, m.2.value))).pick
      ["version", "checksum", "state"] = some [some v.value, some c.value, some state] :=
    pick_of_perm hvalues (by simp [fields]) (List.forall_mem_map.2 hothers)
  simp [read?, hdocument, h.read?_record hstate, hpick, Field.required?,
    readUInt32?_of_isWhole hwhole hversion, hquoted, readText?_quoted hspells,
    hstate.isEncoded.isSome_decode?]

end Envelope

namespace Layout

variable {l : Layout} {version : UInt32} {checksum : String}

/-- An envelope is decoded by its version, its checksum and the bytes of its state's text, whatever
its layout: the version comes first, then the checksum, then what the state's text spells, then the
bounds of that snapshot. So a text of another digest in the place of the state's is refused, be it
one of the same value. -/
theorem decode_text (h : l.Gives version checksum) :
    (∀ state, IsJson state → Snapshot.decode (l.text state) =
      if version ≠ 1 then .error (.unsupportedVersion version)
      else if checksum ≠ Sha256.hex state then
        .error (.checksumMismatch checksum (Sha256.hex state))
      else
        match Snapshot.ofText? state with
        | none => .error .malformed
        | some s =>
          match s.fault? with
          | some fault => .error (.outOfBounds fault)
          | none => .ok (some s)) ∧
    ∀ state state', IsJson state → IsJson state' → checksum = Sha256.hex state →
      Sha256.hex state' ≠ Sha256.hex state →
      ∃ error, Snapshot.decode (l.text state') = .error error ∧
        (error = .unsupportedVersion version ∨
          error = .checksumMismatch (Sha256.hex state) (Sha256.hex state')) := by
  have hdecode (state : Bytes) (hstate : IsJson state) : Snapshot.decode (l.text state) =
      (Envelope.openSnapshot ⟨version, checksum, state⟩).map some :=
    Snapshot.decode_of_read? (Envelope.read?_text h hstate)
  constructor
  · intro state hstate
    rw [hdecode state hstate]
    by_cases hversion : version = 1
    · by_cases hchecksum : checksum = Sha256.hex state
      · rw [Envelope.openSnapshot_of_matches hversion hchecksum.symm hstate,
          if_neg fun hne => hne hversion, if_neg fun hne => hne hchecksum]
        cases Snapshot.ofText? state with
        | none => rfl
        | some s => cases hfault : s.fault? <;> simp [hfault, Except.map]
      · rw [Envelope.openSnapshot_of_checksum hversion fun he => hchecksum he.symm,
          if_neg fun hne => hne hversion, if_pos hchecksum]
        rfl
    · rw [Envelope.openSnapshot_of_version hversion, if_pos hversion]
      rfl
  · intro state state' _ hstate' hchecksum hdigest
    rw [← hchecksum] at hdigest ⊢
    rw [hdecode state' hstate']
    by_cases hversion : version = 1
    · rw [Envelope.openSnapshot_of_checksum hversion hdigest]
      exact ⟨_, rfl, .inr rfl⟩
    · rw [Envelope.openSnapshot_of_version hversion]
      exact ⟨_, rfl, .inl rfl⟩

def reordered (checksum : String) : Layout where
  before := [0x0a]
  earlier := [("note",
    { key := spell "note"
      value := Style.indented.array 0 [null, writeInt (-1)]
      after := [0x20] })]
  state :=
    { key := [0x5c, 0x75, 0x30, 0x30, 0x37, 0x33] ++ spell "tate"
      value := []
      before := [0x09] }
  later := [("version", { beforeKey := [0x20], key := spell "version", value := [0x31] }),
    ("checksum", { key := spell "checksum", value := writeText checksum })]
  closing := [0x0d, 0x0a]

theorem gives_reordered (checksum : String) : (reordered checksum).Gives 1 checksum where
  blank := by simp [reordered, AllBlank, isBlank]
  state := by
    have hescape : IsUnit [0x5c, 0x75, 0x30, 0x30, 0x37, 0x33] 's'.toNat :=
      IsUnit.digits (.lower (v := 0) (by decide)) (.lower (v := 0) (by decide))
        (.lower (v := 7) (by decide)) (.lower (v := 3) (by decide))
    exact ⟨by simp [reordered, Member.IsSpaced, Element.IsSpaced, AllBlank, isBlank],
      .unit hescape (spells_spell "tate")⟩
  wellFormed := by
    have hnote : IsJson (Style.indented.array 0 [null, writeInt (-1)]) :=
      isJson_array .indented 0 (by simp [isJson_writeInt, IsJson.null])
    have hone : IsWhole [0x31] := .digits rfl (by decide) (by simp [AllDigits])
    intro m hm
    rcases hm with _ | ⟨_, _ | ⟨_, _ | ⟨_, ⟨⟩⟩⟩⟩ <;> dsimp only
    · exact ⟨by simp [Member.IsSpaced, Element.IsSpaced, AllBlank, isBlank],
        spells_spell "note", hnote⟩
    · exact ⟨by simp [Member.IsSpaced, Element.IsSpaced, AllBlank, isBlank],
        spells_spell "version", .number hone.isNumber⟩
    · exact ⟨by simp [Member.IsSpaced, Element.IsSpaced, AllBlank],
        spells_spell "checksum", isJson_writeText checksum⟩
  once := by
    have hone : IsWhole [0x31] := .digits rfl (by decide) (by simp [AllDigits])
    refine ⟨_, _, (reordered checksum).earlier, List.perm_append_comm, by simp [reordered],
      ⟨hone, rfl⟩, spell checksum, ?_, spells_spell checksum⟩
    dsimp only
    exact writeText_eq checksum

/-- The state of a new session on lines of its own, and in its place the same state on one line. -/
theorem decode_text_reordered :
    let state := Snapshot.fresh.write .indented
    let other := Snapshot.fresh.write .compact
    let l := reordered (Sha256.hex state)
    l.Gives 1 (Sha256.hex state) ∧ IsJson state ∧ IsJson other ∧
      Sha256.hex other ≠ Sha256.hex state ∧ Snapshot.decode (l.text state) = .ok (some .fresh) ∧
      ∃ error, Snapshot.decode (l.text other) = .error error := by
  intro state other l
  have hgives := gives_reordered (Sha256.hex state)
  have hstate : IsJson state := Snapshot.isJson_write .indented .fresh
  have hother : IsJson other := Snapshot.isJson_write .compact .fresh
  have hdigest : Sha256.hex other ≠ Sha256.hex state := by decide +kernel
  obtain ⟨hdecode, hexchange⟩ := decode_text hgives
  obtain ⟨error, herror, -⟩ := hexchange state other hstate hother rfl hdigest
  refine ⟨hgives, hstate, hother, hdigest, ?_, error, herror⟩
  have htext : Snapshot.ofText? state = some .fresh := by
    rw [Snapshot.ofText?, document?_eq_self hstate.isValue]
    exact Snapshot.read?_write .indented .fresh
  rw [hdecode state hstate, if_neg (by decide), if_neg fun hne => hne rfl, htext]
  rfl

end Layout

end DurableCalc
