/-!
# Text as bytes

Descriptors hold text as UTF-8. Encoding always succeeds; decoding succeeds on exactly the bytes
that encode some text.
-/

namespace NetImport.Text

/-- The UTF-8 bytes of a text. -/
def encodeUtf8 (text : String) : List UInt8 := text.toByteArray.data.toList

/-- The text that bytes encode, if they are valid UTF-8. -/
def decodeUtf8? (bytes : List UInt8) : Option String := String.fromUTF8? ⟨bytes.toArray⟩

/-- Encoded text decodes to itself. -/
@[simp] theorem decodeUtf8?_encodeUtf8 (text : String) :
    decodeUtf8? (encodeUtf8 text) = some text := by
  have same : (⟨(encodeUtf8 text).toArray⟩ : ByteArray) = text.toByteArray := by
    simp [encodeUtf8]
  rw [decodeUtf8?, same, String.fromUTF8?, dif_pos text.isValidUTF8]
  rfl

end NetImport.Text
