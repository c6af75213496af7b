/-!
# Bytes of a text

A query may arrive as raw bytes. Text turns into its UTF-8 bytes, and bytes turn back into text
when they are well-formed UTF-8 and only then.
-/

namespace QueryGate.Text

/-- The UTF-8 bytes of a text. -/
def bytes (s : String) : List UInt8 :=
  s.toByteArray.data.toList

/-- The text that a byte sequence encodes, if it is well-formed UTF-8. -/
def ofBytes? (bs : List UInt8) : Option String :=
  String.fromUTF8? ⟨bs.toArray⟩

end QueryGate.Text
