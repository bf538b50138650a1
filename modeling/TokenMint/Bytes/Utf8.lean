/-!
# Texts as bytes

A text is stored and signed as its UTF-8 bytes. `toText?` reads exactly the sequences of bytes that
are the encoding of a text, and `toText?_ofText` says that a text is read back.
-/

set_option autoImplicit false
set_option relaxedAutoImplicit false

namespace TokenMint.Bytes.Utf8

/-- The UTF-8 bytes of a text. -/
def ofText (text : String) : List UInt8 :=
  text.toUTF8.data.toList

/-- The text that the bytes encode, if they are UTF-8. -/
def toText? (bytes : List UInt8) : Option String :=
  String.fromUTF8? ⟨bytes.toArray⟩

theorem ofText_ofList (chars : List Char) :
    ofText (String.ofList chars) = chars.flatMap String.utf8EncodeChar := by
  simp [ofText, List.utf8Encode]

theorem toText?_ofText (text : String) : toText? (ofText text) = some text := by
  have hvalid : (ByteArray.mk text.toUTF8.data.toList.toArray).IsValidUTF8 := text.isValidUTF8
  exact dif_pos hvalid

end TokenMint.Bytes.Utf8
