import AstCompare.Compression.Checksum

/-!
# Chunks

A picture file is a signature and a row of chunks. A chunk has a kind of four letters, data and a
check sum of both. A chunk whose kind begins with a small letter may be passed over.

## Main definitions

* `signature`: the first bytes of a file.
* `Chunk`: a chunk.
* `Chunk.bytes`, `Chunk.at?`: the bytes of a chunk, and the chunk at a place.
-/

namespace AstCompare.Png

/-- The first bytes of a file. -/
def signature : ByteArray :=
  .mk #[137, 80, 78, 71, 13, 10, 26, 10]

/-- A kind and data. -/
structure Chunk where
  kind : String
  data : ByteArray

namespace Chunk

/-- The bytes of a chunk. -/
def bytes (c : Chunk) : ByteArray :=
  let body := c.kind.toUTF8 ++ c.data
  bigEndian 4 c.data.size ++ body ++ bigEndian 4 (Checksum.remainder body)

/-- The text of four bytes, one character for each. -/
def kindOf (b : ByteArray) (i : Nat) : String :=
  String.ofList ((List.range 4).map fun k => Char.ofNat (byteAt b (i + k)))

/-- The kind of the chunk that begins at a place, if so much of it is there. -/
def kindAt? (b : ByteArray) (i : Nat) : Option String :=
  if i + 8 ≤ b.size then some (kindOf b (i + 4)) else none

/-- A chunk of this kind may be passed over. -/
def isAncillary (kind : String) : Bool :=
  match kind.toList with
  | c :: _ => c.toNat / 32 % 2 == 1
  | [] => false

/-- The chunk that begins at a place, whether its check sum is right, and the place behind it. -/
def at? (b : ByteArray) (i : Nat) : Option (Chunk × Bool × Nat) := do
  let kind ← kindAt? b i
  let n := numberAt b i 4
  if i + 12 + n ≤ b.size then
    let sum := Checksum.remainder (b.extract (i + 4) (i + 8 + n))
    return (⟨kind, b.extract (i + 8) (i + 8 + n)⟩, sum == numberAt b (i + 8 + n) 4, i + 12 + n)
  else none

end Chunk

end AstCompare.Png
