import DurableCalc.Json.Style
import DurableCalc.Proofs.Json.Value

/-!
# Containers read back

The elements of an array and the members of an object are found again, each with the text it was
written with, however they are laid out. What is written in either style is a JSON value laid out in
one way, and it stays fit for a buffer inside of containers that do not nest too deep.
-/

namespace DurableCalc.Json

open Text

theorem mapM_map_eq_some {f : α → β} {g : β → Option γ} {k : α → γ} {list : List α}
    (h : ∀ a ∈ list, g (f a) = some (k a)) : (list.map f).mapM g = some (list.map k) := by
  induction list with
  | nil => rfl
  | cons a list ih => simp [h a, ih fun a' ha => h a' (by simp [ha])]

theorem length_le_laterItems (items : List Bytes) : items.length ≤ (laterItems items).length := by
  induction items with
  | nil => exact Nat.le_refl _
  | cons item items ih =>
    rw [laterItems_cons, List.length_cons, List.length_cons, List.length_append]
    omega

theorem dropBlanks_laterItems_cons {blanks : Bytes} (hblanks : AllBlank blanks) (item : Bytes)
    (items : List Bytes) (rest : Bytes) :
    dropBlanks (blanks ++ (laterItems (item :: items) ++ rest)) =
      0x2c :: (item ++ (laterItems items ++ rest)) := by
  rw [dropBlanks_blanks_append hblanks, laterItems_cons, List.cons_append, List.append_assoc]
  exact dropBlanks_cons (by decide) _

theorem ends_closing {blanks : Bytes} (hblanks : AllBlank blanks) {closing : UInt8} (rest : Bytes)
    (h : isDigit closing = false ∧ closing ≠ 0x2e ∧ closing ≠ 0x65 ∧ closing ≠ 0x45) :
    Ends (blanks ++ closing :: rest) :=
  ends_blanks_append hblanks (ends_cons rest h)

theorem splitValue?_element {e : Element} (hspaced : e.IsSpaced) (hv : IsValue e.value)
    {rest : Bytes} (hrest : Ends rest) :
    splitValue? (dropBlanks (e.text ++ rest)) = some (e.value, e.after ++ rest) := by
  rw [Element.text, List.append_assoc, List.append_assoc]
  exact splitValue?_dropBlanks hspaced.1 hv (ends_blanks_append hspaced.2 hrest)

theorem elementsFrom_comma {fuel : Nat} {bytes v rest rest' : Bytes}
    (hv : splitValue? (dropBlanks bytes) = some (v, rest))
    (hcomma : dropBlanks rest = 0x2c :: rest') :
    elementsFrom (fuel + 1) bytes = (elementsFrom fuel rest').map (v :: ·) := by
  rw [elementsFrom, hv]
  dsimp only
  rw [hcomma]
  rfl

theorem elementsFrom_end {fuel : Nat} {bytes v rest : Bytes}
    (hv : splitValue? (dropBlanks bytes) = some (v, rest)) (hend : dropBlanks rest = [0x5d]) :
    elementsFrom (fuel + 1) bytes = some [v] := by
  rw [elementsFrom, hv]
  dsimp only
  rw [hend]
  rfl

theorem elementsFrom_items {blanks : Bytes} (hblanks : AllBlank blanks) {e : Element}
    {elements : List Element} (h : ∀ e' ∈ e :: elements, e'.IsSpaced ∧ IsValue e'.value)
    {fuel : Nat} (hfuel : elements.length < fuel) :
    elementsFrom fuel (e.text ++ (laterItems (elements.map Element.text) ++ (blanks ++ [0x5d]))) =
      some ((e :: elements).map (·.value)) := by
  have hend : Ends (blanks ++ [0x5d]) := ends_closing hblanks [] (by decide)
  obtain ⟨fuel, rfl⟩ : ∃ n, fuel = n + 1 := ⟨fuel - 1, by omega⟩
  induction elements generalizing e fuel with
  | nil =>
    obtain ⟨hspaced, hv⟩ := h e (by simp)
    apply elementsFrom_end (splitValue?_element hspaced hv hend)
    rw [dropBlanks_blanks_append hspaced.2]
    exact dropBlanks_blanks_append hblanks _
  | cons next elements ih =>
    obtain ⟨hspaced, hv⟩ := h e (by simp)
    obtain ⟨fuel, rfl⟩ : ∃ n, fuel = n + 1 := ⟨fuel - 1, by simp at hfuel; omega⟩
    have hrest := ih (fun e' he => h e' (List.mem_cons_of_mem _ he)) fuel (by simpa using hfuel)
    have hsplit := splitValue?_element hspaced hv
      (ends_laterItems_append ((next :: elements).map Element.text) hend)
    rw [elementsFrom_comma hsplit (dropBlanks_laterItems_cons hspaced.2 _ _ _), hrest]
    rfl

theorem elements?_arrayText {blanks : Bytes} (hblanks : AllBlank blanks) {elements : List Element}
    (h : ∀ e ∈ elements, e.IsSpaced ∧ IsValue e.value) :
    elements? (arrayText blanks elements) = some (elements.map (·.value)) := by
  cases elements with
  | nil =>
    have hhead : (dropBlanks (blanks ++ [0x5d])).head? = some 0x5d := by
      rw [dropBlanks_blanks_append hblanks]
      rfl
    rw [arrayText, List.map_nil, enclose, elements?, if_pos hhead]
    rfl
  | cons e elements =>
    obtain ⟨hspaced, hv⟩ := h e (by simp)
    have hhead (rest : Bytes) : (dropBlanks (e.text ++ rest)).head? ≠ some 0x5d := by
      rw [Element.text, List.append_assoc, List.append_assoc,
        dropBlanks_blanks_append hspaced.1, hv.dropBlanks_append]
      obtain ⟨b, tail, hvalue, _, hb⟩ := hv.starts
      simpa [hvalue] using hb
    rw [arrayText, List.map_cons, enclose, elements?, if_neg (hhead _)]
    apply elementsFrom_items hblanks h
    have hlength := length_le_laterItems (elements.map Element.text)
    simp only [List.length_append, List.length_cons, List.length_nil, List.length_map]
      at hlength ⊢
    omega

theorem membersFrom_comma {fuel : Nat} {bytes key v afterKey afterColon rest rest' : Bytes}
    (hkey : splitValue? (dropBlanks bytes) = some (key, afterKey))
    (hcolon : dropBlanks afterKey = 0x3a :: afterColon)
    (hv : splitValue? (dropBlanks afterColon) = some (v, rest))
    (hcomma : dropBlanks rest = 0x2c :: rest') :
    membersFrom (fuel + 1) bytes = (membersFrom fuel rest').map ((key, v) :: ·) := by
  rw [membersFrom, hkey]
  dsimp only
  rw [hcolon]
  split
  · rename_i heq
    cases heq
    rw [hv]
    dsimp only
    rw [hcomma]
    rfl
  · rename_i hne
    exact absurd rfl (hne afterColon)

theorem membersFrom_end {fuel : Nat} {bytes key v afterKey afterColon rest : Bytes}
    (hkey : splitValue? (dropBlanks bytes) = some (key, afterKey))
    (hcolon : dropBlanks afterKey = 0x3a :: afterColon)
    (hv : splitValue? (dropBlanks afterColon) = some (v, rest)) (hend : dropBlanks rest = [0x7d]) :
    membersFrom (fuel + 1) bytes = some [(key, v)] := by
  rw [membersFrom, hkey]
  dsimp only
  rw [hcolon]
  split
  · rename_i heq
    cases heq
    rw [hv]
    dsimp only
    rw [hend]
    rfl
  · rename_i hne
    exact absurd rfl (hne afterColon)

structure Member.IsReadable (m : Member) : Prop where
  isSpaced : m.IsSpaced
  key : IsInside m.key
  value : IsValue m.value

theorem splitValue?_member {m : Member} (h : m.IsReadable) {rest : Bytes} (hrest : Ends rest) :
    splitValue? (dropBlanks (m.text ++ rest)) =
        some (quoted m.key, m.afterKey ++ 0x3a :: (m.toElement.text ++ rest)) ∧
      dropBlanks (m.afterKey ++ 0x3a :: (m.toElement.text ++ rest)) =
        0x3a :: (m.toElement.text ++ rest) ∧
      splitValue? (dropBlanks (m.toElement.text ++ rest)) = some (m.value, m.after ++ rest) := by
  obtain ⟨hbeforeKey, hafterKey, helement⟩ := h.isSpaced
  refine ⟨?_, dropBlanks_blanks_append hafterKey _, splitValue?_element helement h.value hrest⟩
  simp only [Member.text, List.append_assoc, List.cons_append]
  exact splitValue?_dropBlanks hbeforeKey h.key.isValue
    (ends_blanks_append hafterKey (ends_cons _ (by decide)))

theorem membersFrom_items {blanks : Bytes} (hblanks : AllBlank blanks) {m : Member}
    {members : List Member} (h : ∀ m' ∈ m :: members, m'.IsReadable) {fuel : Nat}
    (hfuel : members.length < fuel) :
    membersFrom fuel (m.text ++ (laterItems (members.map Member.text) ++ (blanks ++ [0x7d]))) =
      some ((m :: members).map fun m => (quoted m.key, m.value)) := by
  have hend : Ends (blanks ++ [0x7d]) := ends_closing hblanks [] (by decide)
  obtain ⟨fuel, rfl⟩ : ∃ n, fuel = n + 1 := ⟨fuel - 1, by omega⟩
  induction members generalizing m fuel with
  | nil =>
    have hm := h m (by simp)
    obtain ⟨hkey, hcolon, hv⟩ := splitValue?_member hm hend
    apply membersFrom_end hkey hcolon hv
    rw [dropBlanks_blanks_append hm.isSpaced.2.2.2]
    exact dropBlanks_blanks_append hblanks _
  | cons next members ih =>
    have hm := h m (by simp)
    obtain ⟨fuel, rfl⟩ : ∃ n, fuel = n + 1 := ⟨fuel - 1, by simp at hfuel; omega⟩
    have hrest := ih (fun m' hm => h m' (List.mem_cons_of_mem _ hm)) fuel (by simpa using hfuel)
    obtain ⟨hkey, hcolon, hv⟩ := splitValue?_member hm
      (ends_laterItems_append ((next :: members).map Member.text) hend)
    rw [membersFrom_comma hkey hcolon hv (dropBlanks_laterItems_cons hm.isSpaced.2.2.2 _ _ _),
      hrest]
    rfl

theorem members?_objectText {blanks : Bytes} (hblanks : AllBlank blanks) {members : List Member}
    (h : ∀ m ∈ members, m.IsReadable) :
    members? (objectText blanks members) =
      some (members.map fun m => (quoted m.key, m.value)) := by
  cases members with
  | nil =>
    have hhead : (dropBlanks (blanks ++ [0x7d])).head? = some 0x7d := by
      rw [dropBlanks_blanks_append hblanks]
      rfl
    rw [objectText, List.map_nil, enclose, members?, if_pos hhead]
    rfl
  | cons m members =>
    have hm := h m (by simp)
    have hhead (rest : Bytes) : (dropBlanks (m.text ++ rest)).head? ≠ some 0x7d := by
      rw [Member.text, List.append_assoc, List.append_assoc,
        dropBlanks_blanks_append hm.isSpaced.1, hm.key.isValue.dropBlanks_append]
      simp [quoted]
    rw [objectText, List.map_cons, enclose, members?, if_neg (hhead _)]
    apply membersFrom_items hblanks h
    have hlength := length_le_laterItems (members.map Member.text)
    simp only [List.length_append, List.length_cons, List.length_nil, List.length_map]
      at hlength ⊢
    omega

theorem readKeys?_quoted {members : List (String × Member)}
    (h : ∀ m ∈ members, Spells m.2.key m.1.toList) :
    readKeys? (members.map fun m => (quoted m.2.key, m.2.value)) =
      some (members.map fun m => (m.1, m.2.value)) := by
  apply mapM_map_eq_some
  intro m hm
  dsimp only
  rw [readText?_quoted (h m hm)]
  rfl

theorem read?_objectText {blanks : Bytes} (hblanks : AllBlank blanks)
    {members : List (String × Member)} (hreadable : ∀ m ∈ members, m.2.IsReadable)
    (hkey : ∀ m ∈ members, Spells m.2.key m.1.toList) :
    Record.read? (objectText blanks (members.map (·.2))) =
      some (.keyed (members.map fun m => (m.1, m.2.value))) := by
  have hmembers : members? (objectText blanks (members.map (·.2))) =
      some (members.map fun m => (quoted m.2.key, m.2.value)) := by
    rw [members?_objectText hblanks (List.forall_mem_map.2 hreadable), List.map_map]
    rfl
  simp only [Record.read?, hmembers, readKeys?_quoted hkey]
  rfl

/-- A key that occurs once gives its value, in whatever order the members stand. -/
theorem uniqueValue?_of_perm {members others : List (String × Bytes)} {key : String} {v : Bytes}
    (h : members.Perm ((key, v) :: others)) (hothers : ∀ m ∈ others, m.1 ≠ key) :
    uniqueValue? members key = some (some v) := by
  have hfilter := h.filter fun m => m.1 == key
  have hnone : others.filter (fun m => m.1 == key) = [] :=
    List.filter_eq_nil_iff.2 fun m hm => by simpa using hothers m hm
  rw [List.filter_cons_of_pos (by simp), hnone, List.perm_singleton] at hfilter
  rw [uniqueValue?, hfilter]

/-- Fields that occur once each give their values, whatever other members there are. -/
theorem pick_of_perm {members fields others : List (String × Bytes)}
    (h : members.Perm (fields ++ others)) (hnodup : (fields.map (·.1)).Nodup)
    (hothers : ∀ m ∈ others, m.1 ∉ fields.map (·.1)) :
    (Record.keyed members).pick (fields.map (·.1)) = some (fields.map fun m => some m.2) := by
  apply mapM_map_eq_some
  intro m hm
  obtain ⟨front, back, rfl⟩ := List.append_of_mem hm
  have hfront : members.Perm (m :: (front ++ back ++ others)) := by
    refine h.trans ?_
    rw [List.append_assoc, List.cons_append, List.append_assoc]
    exact List.perm_middle
  have hfresh : m.1 ∉ (front ++ back).map (·.1) := by
    rw [List.map_append]
    rw [List.map_append, List.map_cons, List.perm_middle.nodup_iff] at hnodup
    exact (List.nodup_cons.1 hnodup).1
  apply uniqueValue?_of_perm hfront
  intro m' hm' hkey
  rcases List.mem_append.1 hm' with hm' | hm'
  · exact hfresh (hkey ▸ List.mem_map_of_mem hm')
  · exact hothers m' hm' (hkey ▸ List.mem_map_of_mem hm)

end DurableCalc.Json
