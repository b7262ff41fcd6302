import AstCompare.Compression.Inflate
import AstCompare.Picture.Basic
import AstCompare.Picture.Png.Chunk
import AstCompare.Picture.Png.Filter

/-!
# Reading picture files

A picture file names its size and the kind of its samples, may have a palette and colors that count
as transparent, and holds its rows compressed and filtered. Samples have one to sixteen bits; those
of less than eight are brought to eight, and the entries of a palette are replaced by their colors.
The pixels may come in seven passes, each of which holds every so many pixels of every so many rows.

A file is read up to the first chunk behind the picture data. Damaged chunks that may be passed over
are passed over, and rows beyond the height are left aside; every other damage makes the file
unreadable.

## Main definitions

* `Header`, `Coloring`: size and kind of a picture.
* `Pass`, `passes`: which pixels come together.
* `Body`, `Body.ofBytes?`: a file taken apart.
* `decode?`: the picture in a file.
-/

namespace AstCompare.Png

/-- What the samples of a pixel mean. -/
inductive Coloring where
  | gray
  | rgb
  | indexed
  | grayAlpha
  | rgba
  deriving DecidableEq, Repr

namespace Coloring

/-- The kind with a number. -/
def ofNumber? : Nat → Option Coloring
  | 0 => some gray
  | 2 => some rgb
  | 3 => some indexed
  | 4 => some grayAlpha
  | 6 => some rgba
  | _ => none

/-- The number of samples of a pixel. -/
def samples : Coloring → Nat
  | gray | indexed => 1
  | grayAlpha => 2
  | rgb => 3
  | rgba => 4

/-- How many bits a sample may have. -/
def depths : Coloring → List Nat
  | gray => [1, 2, 4, 8, 16]
  | indexed => [1, 2, 4, 8]
  | rgb | grayAlpha | rgba => [8, 16]

end Coloring

/-- Size and kind of a picture. -/
structure Header where
  width : Nat
  height : Nat
  depth : Nat
  coloring : Coloring
  interlaced : Bool

namespace Header

/-- The header in the data of a chunk. -/
def ofData? (b : ByteArray) : Option Header := do
  let coloring ← Coloring.ofNumber? (byteAt b 9)
  let h : Header := ⟨numberAt b 0 4, numberAt b 4 4, byteAt b 8, coloring, byteAt b 12 == 1⟩
  if 13 ≤ b.size && h.width != 0 && h.height != 0 && coloring.depths.contains h.depth &&
      byteAt b 10 == 0 && byteAt b 11 == 0 && byteAt b 12 ≤ 1 then return h
  else none

/-- The number of bits of a pixel. -/
def pixelBits (h : Header) : Nat :=
  h.depth * h.coloring.samples

/-- The number of bytes of a row. -/
def rowBytes (h : Header) (width : Nat) : Nat :=
  (width * h.pixelBits + 7) / 8

/-- The number of bytes between neighbouring pixels, at least one. -/
def pixelBytes (h : Header) : Nat :=
  (h.pixelBits + 7) / 8

end Header

/-- Pixels that come together: of every `dy`-th row from `y` on, every `dx`-th pixel from `x` on. -/
structure Pass where
  x : Nat
  y : Nat
  dx : Nat
  dy : Nat
  deriving DecidableEq, Repr

namespace Pass

/-- How many places from `start` on in steps of `step` there are below `size`. -/
def extent (size start step : Nat) : Nat :=
  (size - start + step - 1) / step

/-- The pass holds the pixel. -/
def holds (p : Pass) (x y : Nat) : Bool :=
  x % p.dx == p.x && y % p.dy == p.y

end Pass

/-- The passes of a picture. -/
def passes (interlaced : Bool) : List Pass :=
  if interlaced then
    [⟨0, 0, 8, 8⟩, ⟨4, 0, 8, 8⟩, ⟨0, 4, 4, 8⟩, ⟨2, 0, 4, 4⟩, ⟨0, 2, 2, 4⟩, ⟨1, 0, 2, 2⟩,
      ⟨0, 1, 1, 2⟩]
  else [⟨0, 0, 1, 1⟩]

/-! ### The chunks of a file -/

/-- A file taken apart: the palette and the transparent colors as they stand there, and the
compressed picture data. -/
structure Body where
  header : Header
  palette : Option ByteArray := none
  transparent : Option ByteArray := none
  data : ByteArray := .empty

namespace Body

/-- Takes in the transparent colors. Gray and colors name one that is transparent, in two bytes for
each sample; a palette, which has to stand before, gets how opaque its entries are. -/
def addTransparent (b : Body) (data : ByteArray) : Option Body :=
  if b.transparent.isSome then none
  else
    match b.header.coloring with
    | .gray => if data.size < 2 then none else some { b with transparent := some data }
    | .rgb => if data.size < 6 then none else some { b with transparent := some data }
    | .indexed => if b.palette.isNone then none else some { b with transparent := some data }
    | .grayAlpha | .rgba => none

/-- Takes in a chunk that stands before the picture data. -/
def add (b : Body) (c : Chunk) (sound : Bool) : Option Body :=
  if !sound then (if Chunk.isAncillary c.kind then some b else none)
  else if c.kind == "PLTE" then
    if b.palette.isSome then none else some { b with palette := some c.data }
  else if c.kind == "tRNS" then b.addTransparent c.data
  else if Chunk.isAncillary c.kind then some b
  else none

/-- Reads the chunks of picture data and looks at the kind of the next one. Every chunk takes bytes,
so `fuel` is their number. -/
def readData (bytes : ByteArray) : (fuel place : Nat) → Body → Option Body
  | 0, _, _ => none
  | fuel + 1, i, b => do
    if (← Chunk.kindAt? bytes i) != "IDAT" then return b
    let (c, sound, next) ← Chunk.at? bytes i
    if !sound then none
    readData bytes fuel next { b with data := b.data ++ c.data }

/-- Reads the chunks up to the picture data, and then those. -/
def readChunks (bytes : ByteArray) : (fuel place : Nat) → Body → Option Body
  | 0, _, _ => none
  | fuel + 1, i, b => do
    if (← Chunk.kindAt? bytes i) == "IDAT" then readData bytes (bytes.size + 1) i b
    else
      let (c, sound, next) ← Chunk.at? bytes i
      readChunks bytes fuel next (← b.add c sound)

/-- Takes a file apart. -/
def ofBytes? (bytes : ByteArray) : Option Body := do
  if bytes.extract 0 8 != signature then none
  let (c, sound, next) ← Chunk.at? bytes 8
  if !sound || c.kind != "IHDR" then none
  readChunks bytes (bytes.size + 1) next { header := ← Header.ofData? c.data }

end Body

/-! ### Rows and samples -/

/-- Reads rows, each with the number of its filter in front. -/
def rowsFrom (h : Header) (raw : ByteArray) (bytes : Nat) :
    (count place : Nat) → ByteArray → Array ByteArray → Option (Array ByteArray × Nat)
  | 0, i, _, rows => some (rows, i)
  | n + 1, i, up, rows => do
    if raw.size < i + 1 + bytes then none
    let f ← Filter.ofNumber? (byteAt raw i)
    let row := f.undo h.pixelBytes up (raw.extract (i + 1) (i + 1 + bytes))
    rowsFrom h raw bytes n (i + 1 + bytes) row (rows.push row)

/-- The rows of all passes. A pass without pixels takes no bytes. -/
def passRows (h : Header) (raw : ByteArray) :
    List Pass → Nat → Option (List (Pass × Array ByteArray))
  | [], _ => some []
  | p :: rest, i => do
    let w := Pass.extent h.width p.x p.dx
    let n := if w = 0 then 0 else Pass.extent h.height p.y p.dy
    let (rows, next) ← rowsFrom h raw (h.rowBytes w) n i .empty #[]
    return (p, rows) :: (← passRows h raw rest next)

/-- The sample of a row with a number. -/
def sampleIn (depth : Nat) (row : ByteArray) (i : Nat) : Nat :=
  match depth with
  | 16 => 256 * byteAt row (2 * i) + byteAt row (2 * i + 1)
  | 8 => byteAt row i
  | d => byteAt row (i * d / 8) / Nat.pow 2 (8 - d - i * d % 8) % Nat.pow 2 d

/-- The sample of a pixel, from the pass that holds it. -/
def sampleOf (h : Header) (all : List (Pass × Array ByteArray)) (x y c : Nat) : Nat :=
  match all.find? fun (p, _) => p.holds x y with
  | none => 0
  | some (p, rows) =>
    sampleIn h.depth (rows[y / p.dy]?.getD .empty) (x / p.dx * h.coloring.samples + c)

/-! ### Colors -/

namespace Body

/-- The format of the picture: a palette has three channels, and transparent colors add one. -/
def format (b : Body) : PixelFormat :=
  let channels : Channels :=
    match b.header.coloring, b.transparent.isSome with
    | .gray, false => .gray
    | .gray, true | .grayAlpha, _ => .grayAlpha
    | .rgb, false | .indexed, false => .rgb
    | .rgb, true | .indexed, true | .rgba, _ => .rgba
  ⟨channels, if b.header.depth = 16 then .sixteen else .eight⟩

/-- The greatest sample of the picture. -/
def opaqueness (b : Body) : Nat :=
  b.format.depth.levels - 1

/-- A sample that names the transparent color. -/
def transparentSample (b : Body) (data : ByteArray) (c : Nat) : Nat :=
  if b.header.depth = 16 then numberAt data (2 * c) 2 else byteAt data (2 * c + 1)

/-- The samples of a pixel in the format of the picture, given those in the file. An entry that the
palette does not have is black and opaque. -/
def pixel (b : Body) (given : Nat → Nat) (c : Nat) : Nat :=
  let transparentIf (hit : Bool) : Nat := if hit then 0 else b.opaqueness
  match b.header.coloring with
  | .gray =>
    if c = 0 then
      if b.header.depth < 8 then given 0 * (255 / (Nat.pow 2 b.header.depth - 1)) else given 0
    else transparentIf (b.transparent.any fun t => given 0 == b.transparentSample t 0)
  | .rgb =>
    if c < 3 then given c
    else
      transparentIf (b.transparent.any fun t =>
        (List.range 3).all fun k => given k == b.transparentSample t k)
  | .indexed =>
    let palette := b.palette.getD .empty
    if c < 3 then (if 3 * given 0 + 3 ≤ palette.size then byteAt palette (3 * given 0 + c) else 0)
    else
      match b.transparent with
      | some t => if given 0 < t.size then byteAt t (given 0) else b.opaqueness
      | none => b.opaqueness
  | .grayAlpha | .rgba => given c

end Body

/-- The greatest number of bytes of a picture that is read. -/
def maxBytes : Nat := 536870912

/-- The picture in a file, if it is sound. -/
def decode? (bytes : ByteArray) : Option Picture := do
  let b ← Body.ofBytes? bytes
  let h := b.header
  let f := b.format
  if h.coloring == .indexed && b.palette.isNone then none
  if maxBytes < h.width * h.height * f.channels.count * f.depth.bytes then none
  let raw ← Compression.inflate? b.data
  let all ← passRows h raw (passes h.interlaced) 0
  return ⟨f, h.width, h.height, Vector.ofFn fun y => Vector.ofFn fun x => Vector.ofFn fun c =>
    .clamp f (b.pixel (sampleOf h all x.val y.val) c.val)⟩

end AstCompare.Png
