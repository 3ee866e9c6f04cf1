/-!
# Bytes and their text

`encode` writes a text as UTF-8 bytes and `decode?` reads it back, refusing every byte string that
no text encodes to. The two are inverse on the bytes they share.
-/

namespace DurableCalc

abbrev Bytes := List UInt8

namespace Text

def encode (text : String) : Bytes :=
  text.toList.flatMap String.utf8EncodeChar

def decode? (bytes : Bytes) : Option String :=
  String.fromUTF8? ⟨bytes.toArray⟩

theorem encode_eq_toByteArray (text : String) : encode text = text.toByteArray.data.toList := by
  rw [← String.utf8Encode_toList]
  simp [encode, List.utf8Encode]

theorem decode?_encode (text : String) : decode? (encode text) = some text := by
  have h : (⟨(encode text).toArray⟩ : ByteArray) = text.toByteArray := by
    rw [encode_eq_toByteArray]
  simp [decode?, h, String.fromUTF8?, text.isValidUTF8, String.fromUTF8]

theorem encode_of_decode? {bytes : Bytes} {text : String} (h : decode? bytes = some text) :
    encode text = bytes := by
  unfold decode? String.fromUTF8? at h
  split at h
  · cases h
    simp [encode_eq_toByteArray, String.fromUTF8]
  · cases h

theorem encode_injective {a b : String} (h : encode a = encode b) : a = b := by
  simpa [decode?_encode] using congrArg decode? h

theorem encode_append (a b : String) : encode (a ++ b) = encode a ++ encode b := by
  simp [encode]

end Text

end DurableCalc
