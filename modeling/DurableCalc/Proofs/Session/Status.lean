import DurableCalc.Session.Status
import DurableCalc.Proofs.Session.Passage

/-!
# What the status shows

The status is written for people, in another layout than the slot is, and yet it is one JSON text
that spells the very snapshot that the next session takes up. A sink that has not enough room for it
keeps what fits, and a fault is reported; that the fault is the sink's is told only if the text of
the snapshot itself had room.
-/

namespace DurableCalc

theorem Snapshot.decode_eq_none_iff {blob : Bytes} : decode blob = .ok none ↔ blob = [] := by
  constructor
  · intro h
    unfold decode at h
    split at h
    · exact List.isEmpty_iff.1 ‹_›
    split at h
    · cases h
    · rename_i e _
      cases hopen : e.openSnapshot <;> simp [hopen, Except.map] at h
  · rintro rfl
    rfl

namespace Status

open Json

variable {w : Rehearsal} {sink : Sink} {blob : Bytes} {held : Option Snapshot} {room : Nat}

def shown : Option Snapshot → Bytes
  | none => Text.encode noSavedState ++ [0x0a]
  | some s => text s ++ [0x0a]

/-- A snapshot is read from what is shown of it, whether the newline is left out or not. -/
theorem ofText?_shown (s : Snapshot) : IsJson (text s) ∧ Snapshot.ofText? (text s) = some s ∧
    Snapshot.ofText? (shown (some s)) = some s := by
  have hjson : IsJson (text s) := Snapshot.isJson_write .indented s
  have hread : Snapshot.read? (text s) = some s := Snapshot.read?_write .indented s
  have hnewline : AllBlank [0x0a] := by
    intro b hb
    rw [List.mem_singleton.1 hb]
    rfl
  refine ⟨hjson, ?_, ?_⟩
  · rw [Snapshot.ofText?, document?_eq_self hjson.isValue, Option.bind_some, hread]
  · have hdocument := document?_spaced allBlank_nil hjson.isValue hnewline
    rw [List.nil_append] at hdocument
    rw [Snapshot.ofText?, shown, hdocument, Option.bind_some, hread]

theorem render_of_decode (hroom : sink.room = none) (hdecode : Snapshot.decode blob = .ok held) :
    (render blob sink).1 = .ok () ∧ (render blob sink).2.written = sink.written ++ shown held := by
  rw [render_eq, hdecode]
  cases held with
  | none =>
    simp only [Sink.write, hroom, Sink.written_keep]
    exact ⟨rfl, rfl⟩
  | some s =>
    have hkept : (sink.keep (text s) none).room = none := rfl
    simp only [Sink.write, hroom, hkept, Sink.written_keep, shown, List.append_assoc, and_true]
    rfl

theorem tell_of_load (hload : w.vault.load = .ok blob) :
    tell w sink = ((render blob sink).1, (render blob sink).2, w) := by
  rw [tell_eq, Session.load_eq hload]

/-- The status shows what the next session takes up, and changes nothing. If the slot is empty it is
one line that says so, and the session starts afresh. What the session refuses gives the same error
and no text. What it takes up is shown as one indented JSON text and a newline, and is what this
text spells. -/
theorem tell_as_resumed (hload : w.vault.load = .ok blob) (hroom : sink.room = none) :
    (tell w sink).2.2 = w ∧
    (blob = [] → (Checkpointer.resume w).1 = .ok {} ∧ (tell w sink).1 = .ok () ∧
      (tell w sink).2.1.written = sink.written ++ (Text.encode noSavedState ++ [0x0a])) ∧
    (∀ error, Snapshot.decode blob = .error error →
      (Checkpointer.resume w).1 = .error (.snapshot (.decode error)) ∧
        (tell w sink).1 = .error (.snapshot (.decode error)) ∧ (tell w sink).2.1 = sink) ∧
    (blob ≠ [] → (∃ error, Snapshot.decode blob = .error error) ∨
      ∃ c, (Checkpointer.resume w).1 = .ok c ∧ c.resumed = true ∧
        (tell w sink).1 = .ok () ∧
        (tell w sink).2.1.written = sink.written ++ (c.snapshot.write .indented ++ [0x0a]) ∧
        IsJson (c.snapshot.write .indented) ∧
        Snapshot.ofText? (c.snapshot.write .indented) = some c.snapshot ∧
        Snapshot.ofText? (c.snapshot.write .indented ++ [0x0a]) = some c.snapshot) := by
  rw [tell_of_load hload, Session.resume_of_load hload, Checkpointer.ofBlob]
  refine ⟨rfl, ?_, ?_, fun hne => ?_⟩
  · rintro rfl
    exact ⟨rfl, render_of_decode hroom (Snapshot.decode_eq_none_iff.2 rfl)⟩
  · intro error hdecode
    rw [render_eq, hdecode]
    exact ⟨rfl, rfl, rfl⟩
  · cases hdecode : Snapshot.decode blob with
    | error error => exact .inl ⟨error, rfl⟩
    | ok held =>
      cases held with
      | none => exact absurd (Snapshot.decode_eq_none_iff.1 hdecode) hne
      | some s =>
        obtain ⟨hok, hwritten⟩ := render_of_decode hroom hdecode
        exact .inr ⟨{ snapshot := s, resumed := true }, rfl, rfl, hok, hwritten, ofText?_shown s⟩

/-- A topic that has to be escaped, beside cursors at their limit. -/
theorem tell_as_resumed_help :
    let s : Snapshot :=
      { rngState := Int64.minValue
        pendingInput := some "help"
        command := some (.help
          { topic := some "a \"topic\"\n"
            introCursor := 18446744073709551615
            topicCursor := 18446744073709551615 }) }
    let w : Rehearsal := { vault := { slot := .memory s.encode } }
    w.vault.load = .ok s.encode ∧ (tell w {}).2.2 = w ∧
      ∃ c, (Checkpointer.resume w).1 = .ok c ∧ (tell w {}).1 = .ok () ∧
        (tell w {}).2.1.written = c.snapshot.write .indented ++ [0x0a] ∧
        Snapshot.ofText? (c.snapshot.write .indented ++ [0x0a]) = some c.snapshot := by
  intro s w
  have hload : w.vault.load = .ok s.encode := rfl
  have hroom : ({} : Sink).room = none := rfl
  obtain ⟨hsame, -, -, hheld⟩ := tell_as_resumed hload hroom
  refine ⟨hload, hsame, ?_⟩
  have hfault : s.fault? = none := by decide
  rcases hheld s.encode_ne_nil with ⟨error, hdecode⟩ | ⟨c, hresume, -, hok, hwritten, -, -, hspells⟩
  · rw [Snapshot.decode_encode, hfault] at hdecode
    cases hdecode
  · exact ⟨c, hresume, hok, hwritten, hspells⟩

/-- What is reported of a sink that has room for so many bytes of what is shown. -/
def blame (room : Nat) : Option Snapshot → Error
  | none => .io "sink full"
  | some s =>
    if room < (text s).length then .snapshot (.unwritable "sink full") else .io "sink full"

theorem category_blame (hshort : room < (shown held).length) :
    ((blame room held).report.category = .snapshot ↔
      ∃ s, held = some s ∧ room < (text s).length) ∧
    ((blame room held).report.category = .io ↔
      held = none ∨ ∃ s, held = some s ∧ room = (text s).length) := by
  cases held with
  | none => simp [blame, Error.report, Report.of]
  | some s =>
    simp only [shown, List.length_append, List.length_singleton] at hshort
    by_cases htext : room < (text s).length
    · simp [blame, htext, Error.report, Report.of, Nat.ne_of_lt htext]
    · have hall : room = (text s).length := by omega
      simp [blame, Error.report, Report.of, hall]

theorem render_of_short (hroom : sink.room = some room) (hshort : room < (shown held).length)
    (hdecode : Snapshot.decode blob = .ok held) :
    (render blob sink).1 = .error (blame room held) ∧
      (render blob sink).2.written = sink.written ++ (shown held).take room := by
  rw [render_eq, hdecode]
  cases held with
  | none =>
    simp only [shown] at hshort
    simp only [Sink.write, hroom, if_neg (Nat.not_le.2 hshort), Sink.written_keep]
    exact ⟨rfl, rfl⟩
  | some s =>
    simp only [shown, List.length_append, List.length_singleton] at hshort ⊢
    by_cases htext : room < (text s).length
    · simp only [Sink.write, hroom, if_neg (Nat.not_le.2 htext), Sink.written_keep, blame,
        if_pos htext, List.take_append_of_le_length (Nat.le_of_lt htext), and_self]
    · obtain rfl : room = (text s).length := by omega
      simp [Sink.write, hroom, Sink.keep, Sink.written, blame, Except.mapError]

theorem tell_fst_of_short (hload : w.vault.load = .ok blob)
    (hdecode : Snapshot.decode blob = .ok held) (hroom : sink.room = some room)
    (hshort : room < (shown held).length) : (tell w sink).1 = .error (blame room held) := by
  rw [tell_of_load hload]
  exact (render_of_short hroom hshort hdecode).1

/-- A sink that has not room for all that is shown keeps what it has room for, and the world stays.
The fault is reported as one of the snapshot while the text of the snapshot is written, and as one
of the sink in the line that says there is none and at the newline behind the text. -/
theorem tell_of_short (hload : w.vault.load = .ok blob) (hdecode : Snapshot.decode blob = .ok held)
    (hroom : sink.room = some room) (hshort : room < (shown held).length) :
    (tell w sink).2.2 = w ∧
    (tell w sink).2.1.written = sink.written ++ (shown held).take room ∧
    ∃ error, (tell w sink).1 = .error error ∧
      (error.report.category = .snapshot ↔ ∃ s, held = some s ∧ room < (text s).length) ∧
      (error.report.category = .io ↔
        held = none ∨ ∃ s, held = some s ∧ room = (text s).length) := by
  have hfault := tell_fst_of_short hload hdecode hroom hshort
  rw [tell_of_load hload] at hfault ⊢
  exact ⟨rfl, (render_of_short hroom hshort hdecode).2, _, hfault, category_blame hshort⟩

/-- There is room for the brace, the line break and the indentation of the first name. -/
theorem tell_of_short_name :
    let w : Rehearsal := { vault := { slot := .memory Snapshot.fresh.encode } }
    let sink : Sink := { room := some 4 }
    w.vault.load = .ok Snapshot.fresh.encode ∧
      Snapshot.decode Snapshot.fresh.encode = .ok (some .fresh) ∧
      4 < (shown (some .fresh)).length ∧
      (tell w sink).2.1.written = (shown (some .fresh)).take 4 ∧
      ∃ error, (tell w sink).1 = .error error ∧ error.report.category = .snapshot := by
  intro w sink
  have hdecode : Snapshot.decode Snapshot.fresh.encode = .ok (some .fresh) :=
    Snapshot.fresh.decode_encode
  have htext : 4 < (text .fresh).length := by decide +kernel
  have hshort : 4 < (shown (some .fresh)).length := by
    rw [shown, List.length_append]
    omega
  have hload : w.vault.load = .ok Snapshot.fresh.encode := rfl
  have hroom : sink.room = some 4 := rfl
  obtain ⟨-, hwritten, error, hfault, hsnapshot, -⟩ := tell_of_short hload hdecode hroom hshort
  exact ⟨hload, hdecode, hshort, hwritten, error, hfault, hsnapshot.2 ⟨_, rfl, htext⟩⟩

/-- A saved snapshot that is intact is blamed for a sink that takes nothing. -/
theorem short_sink_not_told :
    let w : Rehearsal := { vault := { slot := .memory Snapshot.fresh.encode } }
    (Checkpointer.resume w).1 = .ok { snapshot := .fresh, resumed := true } ∧
      (tell w { room := some 0 }).1 = .error (.snapshot (.unwritable "sink full")) := by
  intro w
  have hdecode : Snapshot.decode Snapshot.fresh.encode = .ok (some .fresh) :=
    Snapshot.fresh.decode_encode
  have htext : 0 < (text .fresh).length := by decide +kernel
  have hshort : 0 < (shown (some .fresh)).length := by
    rw [shown, List.length_append]
    exact Nat.add_pos_left htext _
  have hload : w.vault.load = .ok Snapshot.fresh.encode := rfl
  have hblob : Checkpointer.ofBlob Snapshot.fresh.encode =
      .ok { snapshot := .fresh, resumed := true } := by
    rw [Checkpointer.ofBlob, hdecode]
  have hfault : blame 0 (some .fresh) = .snapshot (.unwritable "sink full") := by
    rw [blame, if_pos htext]
  constructor
  · rw [Session.resume_of_load hload, hblob, Except.mapError]
  · have hroom : ({ room := some 0 } : Sink).room = some 0 := rfl
    rw [tell_fst_of_short hload hdecode hroom hshort, hfault]

end Status

end DurableCalc
