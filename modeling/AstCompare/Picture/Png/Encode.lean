import AstCompare.Compression.Deflate
import AstCompare.Picture.Basic
import AstCompare.Picture.Png.Chunk
import AstCompare.Picture.Png.Filter

/-!
# Writing picture files

A picture is written with its own channels and depth: a header, one chunk with the compressed rows,
and the end. Every row is filtered in the way that leaves the smallest differences. If that does not
make the data smaller, the rows are kept as they are.

## Main definitions

* `encode`: the bytes of a picture file.
-/

namespace AstCompare.Png

/-- The number for the channels of a picture. -/
def channelsNumber : Channels → Nat
  | .gray => 0
  | .rgb => 2
  | .grayAlpha => 4
  | .rgba => 6

/-- The bytes of the rows, the high byte of a sample first. -/
def rowsOf (p : Picture) : List ByteArray :=
  p.sampleRows.map fun row =>
    match p.format.depth with
    | .eight => ⟨(row.map Nat.toUInt8).toArray⟩
    | .sixteen => ⟨(row.flatMap fun s => [(s / 256).toUInt8, s.toUInt8]).toArray⟩

/-- The rows filtered, each with the help of the one before it. -/
def filteredRows (width : Nat) : ByteArray → List ByteArray → List ByteArray
  | _, [] => []
  | up, row :: rest => Filter.filtered width up row :: filteredRows width row rest

/-- The rows as compressed data. -/
def compressed (p : Picture) : ByteArray :=
  let rows := rowsOf p
  let packed := Compression.compress
    (filteredRows (p.format.channels.count * p.format.depth.bytes) .empty rows)
  let plain := Compression.store (rows.foldl (fun out row => out.push 0 ++ row) .empty)
  if plain.size < packed.size then plain else packed

/-- The bytes of a picture file. -/
def encode (p : Picture) : ByteArray :=
  let header := bigEndian 4 p.width ++ bigEndian 4 p.height ++
    .mk #[(8 * p.format.depth.bytes).toUInt8, (channelsNumber p.format.channels).toUInt8, 0, 0, 0]
  signature ++ Chunk.bytes ⟨"IHDR", header⟩ ++ Chunk.bytes ⟨"IDAT", compressed p⟩ ++
    Chunk.bytes ⟨"IEND", .empty⟩

end AstCompare.Png
