import DurableCalc.Proofs.Json.Number

/-!
# JSON is text

The text of a JSON value is the UTF-8 form of a text.
-/

namespace DurableCalc.Json

open Text

def IsEncoded (bytes : Bytes) : Prop :=
  ∃ text, encode text = bytes

theorem IsEncoded.isSome_decode? {bytes : Bytes} (h : IsEncoded bytes) :
    (decode? bytes).isSome = true := by
  obtain ⟨text, rfl⟩ := h
  rw [decode?_encode]
  rfl

theorem IsEncoded.append {a b : Bytes} (ha : IsEncoded a) (hb : IsEncoded b) :
    IsEncoded (a ++ b) := by
  obtain ⟨s, rfl⟩ := ha
  obtain ⟨t, rfl⟩ := hb
  exact ⟨s ++ t, encode_append s t⟩

theorem isEncoded_of_ascii (bytes : Bytes) (h : ∀ b ∈ bytes, b.toNat < 0x80) :
    IsEncoded bytes := by
  refine ⟨String.ofList (bytes.map Char.ofUInt8), ?_⟩
  rw [encode, String.toList_ofList, List.flatMap_map]
  induction bytes with
  | nil => rfl
  | cons b bytes ih =>
    have hlt : (Char.ofUInt8 b).toNat < 0x80 := h b (by simp)
    have hb : String.utf8EncodeChar (Char.ofUInt8 b) = [b] := by
      rw [utf8EncodeChar_of_lt hlt]
      congr 1
      exact UInt8.ofNat_toNat
    rw [List.flatMap_cons, hb, ih fun b hb => h b (by simp [hb])]
    rfl

theorem isEncoded_char (c : Char) : IsEncoded (String.utf8EncodeChar c) :=
  ⟨String.singleton c, by simp [encode]⟩

theorem IsEncoded.cons {b : UInt8} (hb : b.toNat < 0x80) {rest : Bytes} (h : IsEncoded rest) :
    IsEncoded (b :: rest) :=
  (isEncoded_of_ascii [b] (by simpa using hb)).append h

theorem IsEncoded.concat {b : UInt8} (hb : b.toNat < 0x80) {bytes : Bytes} (h : IsEncoded bytes) :
    IsEncoded (bytes ++ [b]) :=
  h.append (isEncoded_of_ascii [b] (by simpa using hb))

theorem isEncoded_nil : IsEncoded [] := isEncoded_of_ascii [] (by simp)

theorem AllBlank.isEncoded {bytes : Bytes} (h : AllBlank bytes) : IsEncoded bytes := by
  apply isEncoded_of_ascii
  intro b hb
  have hblank := h b hb
  simp only [isBlank, Bool.or_eq_true, beq_iff_eq] at hblank
  rcases hblank with ((rfl | rfl) | rfl) | rfl <;> decide

theorem AllDigits.isEncoded {bytes : Bytes} (h : AllDigits bytes) : IsEncoded bytes := by
  apply isEncoded_of_ascii
  intro b hb
  have hdigit := h b hb
  simp only [isDigit, Bool.and_eq_true, decide_eq_true_eq, UInt8.le_iff_toNat_le] at hdigit
  have hle : b.toNat ≤ 0x39 := hdigit.2
  omega

theorem IsFraction.isEncoded {f : Bytes} (h : IsFraction f) : IsEncoded f := by
  cases h with
  | absent => exact isEncoded_nil
  | point hdigits => exact hdigits.isEncoded.cons (by decide)

theorem IsExponent.isEncoded {x : Bytes} (h : IsExponent x) : IsEncoded x := by
  cases h with
  | absent => exact isEncoded_nil
  | mark he hsign hdigits =>
    apply IsEncoded.cons
    · rcases he with rfl | rfl <;> decide
    · refine IsEncoded.append ?_ hdigits.isEncoded
      rcases hsign with rfl | rfl | rfl <;> exact isEncoded_of_ascii _ (by simp)

theorem IsNumber.isEncoded {n : Bytes} (h : IsNumber n) : IsEncoded n := by
  cases h with
  | parts hsign hwhole hfraction hexponent =>
    obtain ⟨b, digits, rfl, hdigits⟩ := hwhole.exists_cons
    have hrest := hdigits.isEncoded.append (hfraction.isEncoded.append hexponent.isEncoded)
    rcases hsign with rfl | rfl
    · exact hrest
    · exact hrest.cons (by decide)

theorem IsHex.toNat_lt {b : UInt8} {v : Nat} (h : IsHex b v) : b.toNat < 0x80 := by
  have hall : ∀ v < 16, (Nat.digitChar v).toNat.toUInt8.toNat < 0x80 ∧
      (Nat.digitChar v).toUpper.toNat.toUInt8.toNat < 0x80 := by
    decide
  cases h with
  | lower hv => exact (hall v hv).1
  | upper hv => exact (hall v hv).2

theorem IsUnit.isEncoded {u : Bytes} {n : Nat} (h : IsUnit u n) : IsEncoded u := by
  cases h with
  | digits ha hb hc hd =>
    apply isEncoded_of_ascii
    simp [ha.toNat_lt, hb.toNat_lt, hc.toNat_lt, hd.toNat_lt]

theorem IsInside.isEncoded {s : Bytes} (h : IsInside s) : IsEncoded s := by
  induction h with
  | nil => exact isEncoded_nil
  | plain _ _ ih => exact (isEncoded_char _).append ih
  | short hb _ ih =>
    have hall : ∀ e ∈ shortEscapes, e.1.toNat < 0x80 := by decide
    exact (ih.cons (hall _ hb)).cons (by decide)
  | unit hu _ ih => exact hu.isEncoded.append ih

theorem IsInside.isEncoded_quoted {s : Bytes} (h : IsInside s) : IsEncoded (quoted s) :=
  (h.isEncoded.concat (by decide)).cons (by decide)

theorem isEncoded_enclose {opening closing : UInt8} (hopening : opening.toNat < 0x80)
    (hclosing : closing.toNat < 0x80) {blanks : Bytes} (hblanks : AllBlank blanks)
    {items : List Bytes} (h : ∀ item ∈ items, IsEncoded item) :
    IsEncoded (enclose opening closing blanks items) := by
  have hend : IsEncoded (blanks ++ [closing]) := hblanks.isEncoded.concat hclosing
  have hlater : ∀ items : List Bytes, (∀ item ∈ items, IsEncoded item) →
      IsEncoded (laterItems items ++ (blanks ++ [closing])) := by
    intro items h
    induction items with
    | nil => exact hend
    | cons item items ih =>
      have hrest := (h item (by simp)).append (ih fun item hi => h item (by simp [hi]))
      rw [laterItems_cons, List.cons_append, List.append_assoc]
      exact hrest.cons (by decide)
  cases items with
  | nil => exact hend.cons hopening
  | cons item items =>
    have hrest := hlater items fun item hi => h item (by simp [hi])
    exact ((h item (by simp)).append hrest).cons hopening

theorem Element.isEncoded {e : Element} (hspaced : e.IsSpaced) (hv : IsEncoded e.value) :
    IsEncoded e.text :=
  hspaced.1.isEncoded.append (hv.append hspaced.2.isEncoded)

theorem Member.isEncoded {m : Member} (hspaced : m.IsSpaced) (hkey : IsInside m.key)
    (hv : IsEncoded m.value) : IsEncoded m.text := by
  obtain ⟨hbeforeKey, hafterKey, hvalue⟩ := hspaced
  have hcolon := (Element.isEncoded hvalue hv).cons (b := 0x3a) (by decide)
  exact hbeforeKey.isEncoded.append (hkey.isEncoded_quoted.append
    (hafterKey.isEncoded.append hcolon))

theorem IsJson.isEncoded {v : Bytes} (h : IsJson v) : IsEncoded v := by
  induction h with
  | null => exact isEncoded_of_ascii _ (by simp [Json.null])
  | true => exact isEncoded_of_ascii _ (by simp)
  | false => exact isEncoded_of_ascii _ (by simp)
  | number hn => exact hn.isEncoded
  | string hs => exact hs.isEncoded_quoted
  | array hblanks hspaced _ ih =>
    apply isEncoded_enclose (by decide) (by decide) hblanks
    intro item hitem
    obtain ⟨e, he, rfl⟩ := List.mem_map.1 hitem
    exact e.isEncoded (hspaced e he) (ih e he)
  | object hblanks hspaced hkey _ ih =>
    apply isEncoded_enclose (by decide) (by decide) hblanks
    intro item hitem
    obtain ⟨m, hm, rfl⟩ := List.mem_map.1 hitem
    exact m.isEncoded (hspaced m hm) (hkey m hm) (ih m hm)

end DurableCalc.Json
