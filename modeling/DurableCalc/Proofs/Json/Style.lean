import DurableCalc.Json.Style
import DurableCalc.Proofs.Json.Record

/-!
# Written containers

What is written in either style is a JSON value, laid out in one way: with a line for each item, or
without blanks. So its parts are read back, and it stays fit for a buffer inside of containers that
do not nest too deep.
-/

namespace DurableCalc.Json

open Text

theorem isJson_writeInt (n : Int) : IsJson (writeInt n) := .number (isNumber_writeInt n)

theorem isJson_writeText (text : String) : IsJson (writeText text) := by
  rw [writeText_eq]
  exact .string (spells_spell text).isInside

theorem isJson_writeOptional {write : α → Bytes} (h : ∀ value, IsJson (write value))
    (value : Option α) : IsJson (writeOptional write value) := by
  cases value with
  | none => exact .null
  | some value => exact h value

namespace Style

def gap : Style → Bytes
  | .compact => []
  | .indented => [0x20]

theorem colon_eq (style : Style) : style.colon = 0x3a :: style.gap := by
  cases style <;> rfl

def margin (style : Style) (depth : Nat) : List α → Bytes
  | [] => []
  | _ :: _ => style.newline depth

theorem margin_map (style : Style) (depth : Nat) (f : α → β) (items : List α) :
    style.margin depth (items.map f) = style.margin depth items := by
  cases items <;> rfl

def element (style : Style) (depth : Nat) (v : Bytes) : Element :=
  { before := style.newline (depth + 1), value := v }

def member (style : Style) (depth : Nat) (m : String × Bytes) : Member :=
  { beforeKey := style.newline (depth + 1), key := spell m.1, before := style.gap, value := m.2 }

theorem allBlank_newline (style : Style) (depth : Nat) : AllBlank (style.newline depth) := by
  intro b hb
  cases style with
  | compact => cases hb
  | indented =>
    rcases List.mem_cons.1 hb with rfl | hb
    · rfl
    · rw [List.eq_of_mem_replicate hb]
      rfl

theorem allBlank_gap (style : Style) : AllBlank style.gap := by
  cases style <;> simp [AllBlank, gap, isBlank]

theorem allBlank_margin (style : Style) (depth : Nat) (items : List α) :
    AllBlank (style.margin depth items) := by
  cases items with
  | nil => exact allBlank_nil
  | cons item items => exact allBlank_newline style depth

theorem isSpaced_element (style : Style) (depth : Nat) (v : Bytes) :
    (style.element depth v).IsSpaced :=
  ⟨allBlank_newline style _, allBlank_nil⟩

theorem isSpaced_member (style : Style) (depth : Nat) (m : String × Bytes) :
    (style.member depth m).IsSpaced :=
  ⟨allBlank_newline style _, allBlank_nil, allBlank_gap style, allBlank_nil⟩

theorem isReadable_member (style : Style) (depth : Nat) {m : String × Bytes} (h : IsValue m.2) :
    (style.member depth m).IsReadable :=
  ⟨isSpaced_member style depth m, (spells_spell m.1).isInside, h⟩

theorem enclose_eq (style : Style) (depth : Nat) (opening closing : UInt8) (items : List Bytes) :
    style.enclose depth opening closing items =
      Json.enclose opening closing (style.margin depth items)
        (items.map (style.newline (depth + 1) ++ ·)) := by
  cases items with
  | nil => rfl
  | cons item items =>
    simp [Style.enclose, Json.enclose, margin, laterItems, List.flatMap_def, Function.comp_def]

theorem array_eq (style : Style) (depth : Nat) (elements : List Bytes) :
    style.array depth elements =
      arrayText (style.margin depth elements) (elements.map (style.element depth)) := by
  rw [array, enclose_eq, arrayText, List.map_map]
  simp [Function.comp_def, Element.text, element]

theorem object_eq (style : Style) (depth : Nat) (members : List (String × Bytes)) :
    style.object depth members =
      objectText (style.margin depth members) (members.map (style.member depth)) := by
  rw [object, enclose_eq, margin_map, objectText, List.map_map, List.map_map]
  simp [Function.comp_def, Member.text, Element.text, member, writeText_eq, colon_eq]

end Style

theorem isJson_array (style : Style) (depth : Nat) {elements : List Bytes}
    (h : ∀ v ∈ elements, IsJson v) : IsJson (style.array depth elements) := by
  rw [style.array_eq]
  apply IsJson.array (style.allBlank_margin depth elements)
  · exact List.forall_mem_map.2 fun v _ => style.isSpaced_element depth v
  · exact List.forall_mem_map.2 h

theorem isJson_object (style : Style) (depth : Nat) {members : List (String × Bytes)}
    (h : ∀ m ∈ members, IsJson m.2) : IsJson (style.object depth members) := by
  rw [style.object_eq]
  apply IsJson.object (style.allBlank_margin depth members)
  · exact List.forall_mem_map.2 fun m _ => style.isSpaced_member depth m
  · exact List.forall_mem_map.2 fun m _ => (spells_spell m.1).isInside
  · exact List.forall_mem_map.2 h

theorem elements?_array (style : Style) (depth : Nat) {elements : List Bytes}
    (h : ∀ v ∈ elements, IsValue v) : elements? (style.array depth elements) = some elements := by
  rw [style.array_eq, elements?_arrayText (style.allBlank_margin depth elements)]
  · simp [Function.comp_def, Style.element]
  · exact List.forall_mem_map.2 fun v hv => ⟨style.isSpaced_element depth v, h v hv⟩

theorem readList?_array {read? : Bytes → Option α} {write : α → Bytes} (style : Style) (depth : Nat)
    (hvalue : ∀ a, IsValue (write a)) (hread : ∀ a, read? (write a) = some a) (list : List α) :
    readList? read? (style.array depth (list.map write)) = some list := by
  rw [readList?, elements?_array style depth (List.forall_mem_map.2 fun a _ => hvalue a)]
  exact (mapM_map_eq_some (k := id) fun a _ => hread a).trans (by rw [List.map_id])

theorem members?_object (style : Style) (depth : Nat) {members : List (String × Bytes)}
    (h : ∀ m ∈ members, IsValue m.2) :
    members? (style.object depth members) = some (members.map fun m => (writeText m.1, m.2)) := by
  rw [style.object_eq, members?_objectText (style.allBlank_margin depth members)]
  · simp [Function.comp_def, Style.member, writeText_eq]
  · exact List.forall_mem_map.2 fun m hm => style.isReadable_member depth (h m hm)

theorem read?_object (style : Style) (depth : Nat) {members : List (String × Bytes)}
    (h : ∀ m ∈ members, IsValue m.2) :
    Record.read? (style.object depth members) = some (.keyed members) := by
  have hkeys : readKeys? (members.map fun m => (writeText m.1, m.2)) = some (members.map id) :=
    mapM_map_eq_some fun m _ => by simp [readText?_writeText]
  rw [List.map_id] at hkeys
  simp only [Record.read?, members?_object style depth h, hkeys]
  rfl

theorem head_writeInt (n : Int) :
    ∃ b rest, writeInt n = b :: rest ∧ (b = 0x2d ∨ isDigit b = true) := by
  by_cases hn : n < 0
  · exact ⟨_, _, writeInt_of_neg hn, .inl rfl⟩
  · obtain ⟨b, rest, hd⟩ := List.exists_cons_of_ne_nil (digits_ne_nil n.natAbs)
    refine ⟨b, rest, by rw [writeInt_of_nonneg (by omega), hd], .inr ?_⟩
    exact isDigit_of_mem_digits (n := n.natAbs) (by simp [hd])

theorem isBuffered_writeInt {n : Int} (h : n.natAbs < 18446744073709551616) (depth : Nat) :
    isBuffered depth (writeInt n) = true := by
  obtain ⟨b, rest, hn, hb⟩ := head_writeInt n
  have hne {a : UInt8} (ha : a ≠ 0x2d) (ha' : isDigit a = false) : b ≠ a := by
    rintro rfl
    rcases hb with hb | hb
    · exact ha hb
    · rw [ha'] at hb
      cases hb
  have hfinite := isFinite_writeInt h
  rw [hn] at hfinite ⊢
  unfold isBuffered
  split
  · rename_i heq
    exact absurd (List.cons.inj heq).1 (hne (by decide) rfl)
  · rename_i heq
    exact absurd (List.cons.inj heq).1 (hne (by decide) rfl)
  · rename_i heq
    exact absurd (List.cons.inj heq).1 (hne (by decide) rfl)
  · rfl
  · rfl
  · rfl
  · exact hfinite

theorem isBuffered_writeText (text : String) (depth : Nat) :
    isBuffered depth (writeText text) = true := by
  have hread := readText?_writeText text
  rw [writeText_eq] at hread ⊢
  unfold isBuffered
  change (readText? (quoted (spell text))).isSome = true
  rw [hread]
  rfl

theorem isBuffered_writeOptional {write : α → Bytes} {depth : Nat}
    (h : ∀ value, isBuffered depth (write value) = true) (value : Option α) :
    isBuffered depth (writeOptional write value) = true := by
  cases value with
  | none => cases depth <;> rfl
  | some value => exact h value

theorem exists_enclose_eq_cons (style : Style) (depth : Nat) (opening closing : UInt8)
    (items : List Bytes) : ∃ rest, style.enclose depth opening closing items = opening :: rest := by
  cases items with
  | nil => exact ⟨_, rfl⟩
  | cons item items => exact ⟨_, style.enclose_eq depth opening closing (item :: items)⟩

theorem isBuffered_array (style : Style) (depth : Nat) {limit : Nat} {elements : List Bytes}
    (hvalue : ∀ v ∈ elements, IsValue v) (h : ∀ v ∈ elements, isBuffered limit v = true) :
    isBuffered (limit + 1) (style.array depth elements) = true := by
  have helements := elements?_array style depth hvalue
  obtain ⟨rest, hrest⟩ := exists_enclose_eq_cons style depth 0x5b 0x5d elements
  rw [Style.array, hrest] at helements ⊢
  rw [isBuffered]
  · exact List.all_eq_true.2 h
  · exact helements

theorem isBuffered_object (style : Style) (depth : Nat) {limit : Nat}
    {members : List (String × Bytes)} (hvalue : ∀ m ∈ members, IsValue m.2)
    (h : ∀ m ∈ members, isBuffered limit m.2 = true) :
    isBuffered (limit + 1) (style.object depth members) = true := by
  have hmembers := members?_object style depth hvalue
  obtain ⟨rest, hrest⟩ := exists_enclose_eq_cons style depth 0x7b 0x7d
    (members.map fun m => writeText m.1 ++ style.colon ++ m.2)
  rw [Style.object, hrest] at hmembers ⊢
  have hall : ((members.map fun m => (writeText m.1, m.2)).all fun m =>
      (readText? m.1).isSome && isBuffered limit m.2) = true := by
    simpa [readText?_writeText] using fun key value hm => h (key, value) hm
  rw [isBuffered]
  · exact hall
  · exact hmembers

end DurableCalc.Json
