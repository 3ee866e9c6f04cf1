import DurableCalc.Text.Utf8

/-!
# The bytes of a character

An ASCII character is one byte, its code. Every byte of any other character is beyond ASCII, so that
an ASCII byte in a text's bytes is an ASCII character of the text.
-/

namespace DurableCalc.Text

theorem utf8EncodeChar_of_lt {c : Char} (h : c.toNat < 0x80) :
    String.utf8EncodeChar c = [c.toNat.toUInt8] := by
  have hle : c.val.toNat ≤ 0x7f := Nat.le_of_lt_succ h
  simp only [String.utf8EncodeChar, hle, if_true]
  rfl

theorem le_of_mem_utf8EncodeChar {c : Char} (h : 0x80 ≤ c.toNat) {b : UInt8}
    (hb : b ∈ String.utf8EncodeChar c) : 0x80 ≤ b.toNat := by
  have hlt : ¬ c.val.toNat ≤ 0x7f := Nat.not_le_of_lt h
  simp only [String.utf8EncodeChar, hlt, if_false] at hb
  split at hb
  · simp only [List.mem_cons, List.not_mem_nil, or_false] at hb
    rcases hb with rfl | rfl <;> simp <;> omega
  split at hb
  · simp only [List.mem_cons, List.not_mem_nil, or_false] at hb
    rcases hb with rfl | rfl | rfl <;> simp <;> omega
  · simp only [List.mem_cons, List.not_mem_nil, or_false] at hb
    rcases hb with rfl | rfl | rfl | rfl <;> simp <;> omega

theorem mem_of_mem_encode {text : String} {c : Char} (hc : c.toNat < 0x80)
    (h : c.toNat.toUInt8 ∈ encode text) : c ∈ text.toList := by
  have hbyte : c.toNat.toUInt8.toNat = c.toNat := by
    simp
    omega
  obtain ⟨d, hd, hmem⟩ := List.mem_flatMap.1 h
  by_cases hascii : d.toNat < 0x80
  · rw [utf8EncodeChar_of_lt hascii, List.mem_singleton] at hmem
    have hsame := congrArg UInt8.toNat hmem
    have hbyte' : d.toNat.toUInt8.toNat = d.toNat := by
      simp
      omega
    rw [hbyte, hbyte'] at hsame
    rwa [Char.toNat_inj.1 hsame]
  · have hle := le_of_mem_utf8EncodeChar (Nat.le_of_not_lt hascii) hmem
    omega

end DurableCalc.Text
