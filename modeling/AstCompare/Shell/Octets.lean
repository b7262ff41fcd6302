import AstCompare.Text.Utf8

/-!
# Texts as bytes

The shell and the programs that it runs know bytes only. Within them a text has one character for
each byte, and the code of the character is the byte. What enters is taken apart into bytes, what
leaves is put together again.

## Main definitions

* `octets`, `unoctets`: between texts and their bytes.
* `pack`, `unpack`: between bytes as characters and byte arrays.
-/

namespace AstCompare.Shell

/-- The bytes of an array, one character for each. -/
def unpack (b : ByteArray) : String :=
  String.ofList (b.data.toList.map fun c => Char.ofNat c.toNat)

/-- The array of bytes given as characters. -/
def pack (s : String) : ByteArray :=
  ⟨(s.toList.map fun c => c.toNat.toUInt8).toArray⟩

/-- The bytes of a text, one character for each. -/
def octets (s : String) : String :=
  if s.toList.all fun c => c.toNat < 128 then s else unpack s.toUTF8

/-- The text that bytes spell. Bytes that spell no character are replaced. -/
def unoctets (s : String) : String :=
  if s.toList.all fun c => c.toNat < 128 then s else Text.lossyText (pack s)

end AstCompare.Shell
