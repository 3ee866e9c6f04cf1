import DurableCalc.Json.Text
import DurableCalc.Proofs.Json.Grammar
import DurableCalc.Proofs.Text.Utf8

/-!
# JSON strings read back

Whatever the inside of a string, the scanner passes over it without leaving the string; and undoing
its escapes gives the UTF-8 bytes of the characters that it stands for. A written text stands for
its own characters, so that it is read as itself.
-/

namespace DurableCalc.Json

open Text

/-- No byte of a plain character ends a string or starts an escape. -/
theorem ne_of_mem_utf8EncodeChar {c : Char} (hc : IsPlain c) {b : UInt8}
    (hb : b ∈ String.utf8EncodeChar c) : b ≠ 0x22 ∧ b ≠ 0x5c ∧ 0x20 ≤ b.toNat := by
  by_cases h : c.toNat < 0x80
  · obtain ⟨hquote, hslash, hle⟩ := hc
    rw [utf8EncodeChar_of_lt h, List.mem_singleton] at hb
    subst hb
    have hnat : c.toNat.toUInt8.toNat = c.toNat := by simp; omega
    refine ⟨?_, ?_, by omega⟩
    · intro he
      exact hquote (Char.toNat_inj.1 (hnat.symm.trans (congrArg UInt8.toNat he)))
    · intro he
      exact hslash (Char.toNat_inj.1 (hnat.symm.trans (congrArg UInt8.toNat he)))
  · have hle := le_of_mem_utf8EncodeChar (by omega) hb
    refine ⟨?_, ?_, by omega⟩ <;> rintro rfl <;> simp at hle

def escapeBytes (c : Char) : Bytes :=
  (escape c).flatMap String.utf8EncodeChar

def spell (text : String) : Bytes :=
  text.toList.flatMap escapeBytes

theorem writeText_eq (text : String) : writeText text = quoted (spell text) := by
  have hquote : String.utf8EncodeChar '"' = [0x22] := by decide
  simp [writeText, encode, spell, quoted, hquote, List.flatMap_assoc]
  rfl

theorem utf8EncodeChar_digitChar : ∀ {d : Nat}, d < 16 →
    String.utf8EncodeChar (Nat.digitChar d) = [(Nat.digitChar d).toNat.toUInt8] := by
  decide

theorem isUnit_control {c : Char} (hc : c.toNat < 0x20) :
    IsUnit [0x5c, 0x75, 0x30, 0x30, (Nat.digitChar (c.toNat / 16)).toNat.toUInt8,
      (Nat.digitChar (c.toNat % 16)).toNat.toUInt8] c.toNat := by
  have hzero : IsHex 0x30 0 := IsHex.lower (v := 0) (by decide)
  have hhigh : IsHex (Nat.digitChar (c.toNat / 16)).toNat.toUInt8 (c.toNat / 16) :=
    .lower (by omega)
  have hlow : IsHex (Nat.digitChar (c.toNat % 16)).toNat.toUInt8 (c.toNat % 16) :=
    .lower (by omega)
  have hvalue : c.toNat = ((0 * 16 + 0) * 16 + c.toNat / 16) * 16 + c.toNat % 16 := by omega
  have hunit := IsUnit.digits hzero hzero hhigh hlow
  rwa [← hvalue] at hunit

theorem spells_escapeBytes (c : Char) {rest : Bytes} {cs : List Char} (h : Spells rest cs) :
    Spells (escapeBytes c ++ rest) (c :: cs) := by
  unfold escapeBytes escape
  split
  iterate 7 · exact .short (by simp [shortEscapes]) h
  · rename_i hquote hslash _ _ _ _ _
    split
    · rename_i hc
      have hhigh := utf8EncodeChar_digitChar (d := c.toNat / 16) (by omega)
      have hlow := utf8EncodeChar_digitChar (d := c.toNat % 16) (by omega)
      simp only [List.flatMap_cons, List.flatMap_nil, hhigh, hlow, List.append_nil]
      exact .unit (isUnit_control hc) h
    · rename_i hc
      simp only [List.flatMap_cons, List.flatMap_nil, List.append_nil]
      exact .plain ⟨hquote, hslash, by omega⟩ h

theorem spells_spell (text : String) : Spells (spell text) text.toList := by
  unfold spell
  induction text.toList with
  | nil => exact .nil
  | cons c cs ih =>
    rw [List.flatMap_cons]
    exact spells_escapeBytes c ih

theorem IsHex.hexValue?_eq {b : UInt8} {v : Nat} (h : IsHex b v) : hexValue? b = some v := by
  have hall : ∀ v < 16, hexValue? (Nat.digitChar v).toNat.toUInt8 = some v ∧
      hexValue? (Nat.digitChar v).toUpper.toNat.toUInt8 = some v := by
    decide
  cases h with
  | lower hv => exact (hall v hv).1
  | upper hv => exact (hall v hv).2

theorem codePoint?_toNat (c : Char) : codePoint? c.toNat = some (String.utf8EncodeChar c) := by
  have h : c.toNat.isValidChar := c.valid
  unfold codePoint?
  rw [dif_pos h]
  rfl

theorem unescape?_cons {b : UInt8} (hb : b ≠ 0x5c) (rest : Bytes) :
    unescape? (b :: rest) = (unescape? rest).map (b :: ·) := by
  rw [unescape?.eq_4]
  · cases unescape? rest <;> rfl
  · simp [hb]
  · simp [hb]

theorem unescape?_append {bytes : Bytes} (h : ∀ b ∈ bytes, b ≠ 0x5c) (rest : Bytes) :
    unescape? (bytes ++ rest) = (unescape? rest).map (bytes ++ ·) := by
  induction bytes with
  | nil => simp
  | cons b bytes ih =>
    rw [List.cons_append, unescape?_cons (h b (by simp)), ih fun b hb => h b (by simp [hb])]
    simp [Function.comp_def]

/-- An escape of two bytes spells the same byte in front of any rest. -/
theorem unescape?_short (b plain : UInt8) (hb : b ≠ 0x75)
    (h : unescape? [0x5c, b] = some [plain]) (rest : Bytes) :
    unescape? (0x5c :: b :: rest) = (unescape? rest).map (plain :: ·) := by
  rw [unescape?.eq_3 _ _ (by simp [hb])] at h ⊢
  split <;> simp_all [unescape?.eq_1]
  all_goals cases unescape? rest <;> simp

theorem IsUnit.exists_unit? {u : Bytes} {n : Nat} (h : IsUnit u n) :
    ∃ a b c d, u = [0x5c, 0x75, a, b, c, d] ∧ unit? a b c d = some n := by
  cases h with
  | digits ha hb hc hd =>
    refine ⟨_, _, _, _, rfl, ?_⟩
    rw [unit?, ha.hexValue?_eq, hb.hexValue?_eq, hc.hexValue?_eq, hd.hexValue?_eq]
    rfl

theorem unescape?_unit {u : Bytes} {c : Char} (hu : IsUnit u c.toNat) (rest : Bytes) :
    unescape? (u ++ rest) = (unescape? rest).map (String.utf8EncodeChar c ++ ·) := by
  have hvalid : c.toNat.isValidChar := c.valid
  have hsurrogate : ¬ (0xd800 ≤ c.toNat ∧ c.toNat < 0xdc00) := by
    unfold Nat.isValidChar at hvalid
    omega
  obtain ⟨a, b, d, e, rfl, hunit⟩ := hu.exists_unit?
  simp only [List.cons_append, List.nil_append]
  rw [unescape?.eq_2, hunit]
  simp only [Option.bind_eq_bind, Option.bind_some, ← Bool.decide_and, hsurrogate, decide_false,
    Bool.false_eq_true, if_false, codePoint?_toNat]
  cases unescape? rest <;> rfl

theorem unescape?_pair {u v : Bytes} {high low : Nat} {c : Char} (hu : IsUnit u high)
    (hv : IsUnit v low) (hhigh : 0xd800 ≤ high ∧ high < 0xdc00)
    (hlow : 0xdc00 ≤ low ∧ low < 0xe000)
    (hc : c.toNat = 0x10000 + (high - 0xd800) * 0x400 + (low - 0xdc00)) (rest : Bytes) :
    unescape? (u ++ (v ++ rest)) = (unescape? rest).map (String.utf8EncodeChar c ++ ·) := by
  obtain ⟨a, b, d, e, rfl, hunit⟩ := hu.exists_unit?
  obtain ⟨a', b', d', e', rfl, hunit'⟩ := hv.exists_unit?
  simp only [List.cons_append, List.nil_append]
  rw [unescape?.eq_2, hunit]
  simp only [Option.bind_eq_bind, Option.bind_some, ← Bool.decide_and, hhigh, and_self,
    decide_true, if_true, hunit', hlow, ← hc, codePoint?_toNat]
  cases unescape? rest <;> rfl

theorem unescape?_of_mem_shortEscapes {b : UInt8} {c : Char} (h : (b, c) ∈ shortEscapes)
    (rest : Bytes) :
    unescape? (0x5c :: b :: rest) = (unescape? rest).map (String.utf8EncodeChar c ++ ·) := by
  have hall : ∀ e ∈ shortEscapes, e.1 ≠ 0x75 ∧ unescape? [0x5c, e.1] =
      some [e.2.toNat.toUInt8] ∧ String.utf8EncodeChar e.2 = [e.2.toNat.toUInt8] := by
    decide
  obtain ⟨hne, hplain, hencode⟩ := hall (b, c) h
  rw [unescape?_short b _ hne hplain rest, hencode]
  rfl

theorem Spells.unescape?_eq {s : Bytes} {cs : List Char} (h : Spells s cs) :
    unescape? s = some (cs.flatMap String.utf8EncodeChar) := by
  induction h with
  | nil => rfl
  | plain hc _ ih =>
    rw [unescape?_append (fun b hb => (ne_of_mem_utf8EncodeChar hc hb).2.1), ih]
    rfl
  | short hb _ ih =>
    rw [unescape?_of_mem_shortEscapes hb, ih]
    rfl
  | unit hu _ ih =>
    rw [unescape?_unit hu, ih]
    rfl
  | pair hu hv hhigh hlow hc _ ih =>
    rw [unescape?_pair hu hv hhigh hlow hc, ih]
    rfl

theorem readText?_quoted {s : Bytes} {text : String} (h : Spells s text.toList) :
    readText? (quoted s) = some text := by
  rw [quoted, readText?, List.dropLast_concat, h.unescape?_eq]
  exact decode?_encode text

theorem readText?_writeText (text : String) : readText? (writeText text) = some text := by
  rw [writeText_eq]
  exact readText?_quoted (spells_spell text)

theorem eq_of_ofUInt8_eq {a b : UInt8} (h : Char.ofUInt8 a = Char.ofUInt8 b) : a = b :=
  UInt8.toNat_inj.1 (congrArg Char.toNat h)

theorem scan_cons {stack stack' : List Frame} {mode mode' : Mode} {b : UInt8}
    (h : step stack mode b = some (stack', mode')) (rest : Bytes) :
    scan stack mode (b :: rest) = scan stack' mode' rest := by
  simp only [scan, h]

/-- Bytes that leave the mode as it is are passed over. -/
theorem scan_stay {stack : List Frame} {mode : Mode} {bytes : Bytes}
    (h : ∀ b ∈ bytes, step stack mode b = some (stack, mode)) (rest : Bytes) :
    scan stack mode (bytes ++ rest) = scan stack mode rest := by
  induction bytes with
  | nil => rfl
  | cons b bytes ih =>
    rw [List.cons_append, scan_cons (h b (by simp))]
    exact ih fun b hb => h b (by simp [hb])

theorem step_text {b : UInt8} (hquote : b ≠ 0x22) (hslash : b ≠ 0x5c) (hle : 0x20 ≤ b.toNat)
    (stack : List Frame) (isKey : Bool) :
    step stack (.text isKey) b = some (stack, .text isKey) := by
  have hlt : ¬ b < 0x20 := by
    rw [UInt8.lt_iff_toNat_lt]
    exact Nat.not_lt_of_le hle
  simp only [step]
  split
  · rename_i h
    exact absurd (eq_of_ofUInt8_eq h) hquote
  · rename_i h
    exact absurd (eq_of_ofUInt8_eq h) hslash
  · rw [if_neg hlt]

theorem IsHex.isHexDigit_eq {b : UInt8} {v : Nat} (h : IsHex b v) : isHexDigit b = true := by
  have hall : ∀ v < 16, isHexDigit (Nat.digitChar v).toNat.toUInt8 = true ∧
      isHexDigit (Nat.digitChar v).toUpper.toNat.toUInt8 = true := by
    decide
  cases h with
  | lower hv => exact (hall v hv).1
  | upper hv => exact (hall v hv).2

theorem scan_hex {b : UInt8} {v : Nat} (h : IsHex b v) (stack : List Frame) (isKey : Bool)
    (more : Nat) (rest : Bytes) :
    scan stack (.hex isKey (more + 1)) (b :: rest) = scan stack (.hex isKey more) rest :=
  scan_cons (by simp only [step, h.isHexDigit_eq, if_true]) rest

theorem scan_unit {u : Bytes} {n : Nat} (hu : IsUnit u n) (stack : List Frame) (isKey : Bool)
    (rest : Bytes) :
    scan stack (.text isKey) (u ++ rest) = scan stack (.text isKey) rest := by
  cases hu with
  | digits ha hb hc hd =>
    have hstart (rest : Bytes) :
      scan stack (.text isKey) (0x5c :: 0x75 :: rest) = scan stack (.hex isKey 3) rest := rfl
    simp only [List.cons_append, List.nil_append]
    rw [hstart, scan_hex ha, scan_hex hb, scan_hex hc]
    exact scan_cons (by simp only [step, hd.isHexDigit_eq, if_true]) rest

theorem scan_short {b : UInt8} {c : Char} (hb : (b, c) ∈ shortEscapes) (stack : List Frame)
    (isKey : Bool) (rest : Bytes) :
    scan stack (.text isKey) (0x5c :: b :: rest) = scan stack (.text isKey) rest := by
  simp only [shortEscapes, List.mem_cons, Prod.mk.injEq, List.not_mem_nil, or_false] at hb
  rcases hb with ⟨rfl, -⟩ | ⟨rfl, -⟩ | ⟨rfl, -⟩ | ⟨rfl, -⟩ | ⟨rfl, -⟩ | ⟨rfl, -⟩ | ⟨rfl, -⟩ |
    ⟨rfl, -⟩ <;> rfl

theorem IsInside.scan_quote {s : Bytes} (h : IsInside s) (stack : List Frame) (isKey : Bool)
    (rest : Bytes) :
    scan stack (.text isKey) (s ++ 0x22 :: rest) = scan stack (.closed isKey) rest := by
  induction h with
  | nil => rfl
  | plain hc _ ih =>
    rw [List.append_assoc, scan_stay fun b hb => ?_, ih]
    obtain ⟨hquote, hslash, hle⟩ := ne_of_mem_utf8EncodeChar hc hb
    exact step_text hquote hslash hle stack isKey
  | short hb _ ih => exact (scan_short hb stack isKey _).trans ih
  | unit hu _ ih =>
    rw [List.append_assoc]
    exact (scan_unit hu stack isKey _).trans ih

end DurableCalc.Json
