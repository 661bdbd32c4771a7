/-!
# Reading bytes as text

A file is UTF-8, with or without the byte order mark.  Where it is not valid UTF-8, every byte is
the character of that number.
-/

namespace HeaderBindings.Text

/-- The bytes of the byte order mark. -/
def byteOrderMark : List UInt8 := [0xEF, 0xBB, 0xBF]

/-- The bytes after the byte order mark, if there is one; a second mark is text. -/
def withoutByteOrderMark (bytes : List UInt8) : List UInt8 :=
  (byteOrderMark.isPrefixOf? bytes).getD bytes

/-- The text whose characters are numbered by the bytes. -/
def ofLatin (bytes : List UInt8) : String :=
  .ofList (bytes.map fun byte => Char.ofNat byte.toNat)

/-- The text of a file. -/
def decode (bytes : List UInt8) : String :=
  let body := withoutByteOrderMark bytes
  (String.fromUTF8? (ByteArray.mk body.toArray)).getD (ofLatin body)

end HeaderBindings.Text
