/-!
# Pictures

A picture is a grid of pixels, row by row from the top. A pixel holds one sample per channel, and
samples have eight or sixteen bits. Sizes, the number of channels and the range of the samples are
part of the types, so a picture has no malformed values; width and height may be zero.

## Main definitions

* `PixelFormat`: channels and depth.
* `Pixel`, `Grid`, `Picture`: the data.
* `Pixel.toRgb`: the conversion to three channels of eight bits.
* `Picture.ofBytes`, `Picture.sampleRows`: pictures from bytes, and their samples row by row.
-/

namespace AstCompare

/-- Which channels a pixel has. -/
inductive Channels where
  | gray
  | grayAlpha
  | rgb
  | rgba
  deriving DecidableEq, Repr

/-- The number of channels. -/
def Channels.count : Channels → Nat
  | gray => 1
  | grayAlpha => 2
  | rgb => 3
  | rgba => 4

/-- The number of bits of a sample. -/
inductive Depth where
  | eight
  | sixteen
  deriving DecidableEq, Repr

/-- The number of values that a sample can take. -/
def Depth.levels : Depth → Nat
  | eight => 256
  | sixteen => 65536

/-- The number of bytes of a sample. -/
def Depth.bytes : Depth → Nat
  | eight => 1
  | sixteen => 2

theorem Depth.levels_pos (d : Depth) : 0 < d.levels := by
  cases d <;> decide

/-- Channels and depth of a picture. -/
structure PixelFormat where
  channels : Channels
  depth : Depth
  deriving DecidableEq, Repr

/-- Three channels of eight bits. -/
def PixelFormat.rgb8 : PixelFormat := ⟨.rgb, .eight⟩

/-- One value of a channel. -/
abbrev Sample (f : PixelFormat) := Fin f.depth.levels

/-- The samples of one pixel, in the order of the channels. -/
abbrev Pixel (f : PixelFormat) := Vector (Sample f) f.channels.count

/-- Pixels in `h` rows of `w`. -/
abbrev Grid (f : PixelFormat) (w h : Nat) := Vector (Vector (Pixel f) w) h

/-- A picture of any format and size. -/
structure Picture where
  format : PixelFormat
  width : Nat
  height : Nat
  grid : Grid format width height
  deriving DecidableEq

/-- The sample nearest to a number. -/
def Sample.clamp (f : PixelFormat) (n : Nat) : Sample f :=
  ⟨min n (f.depth.levels - 1), by have := f.depth.levels_pos; omega⟩

/-- The sample in eight bits: of sixteen bits, the nearest multiple of 257 counts. -/
def Sample.toEight {f : PixelFormat} (s : Sample f) : Sample .rgb8 :=
  match f.depth with
  | .eight => .clamp .rgb8 s.val
  | .sixteen => .clamp .rgb8 ((s.val + 128) / 257)

/-- The pixel in three channels of eight bits: a gray value is repeated, and how opaque the pixel is
does not matter. -/
def Pixel.toRgb {f : PixelFormat} (p : Pixel f) : Pixel .rgb8 :=
  let channel (i : Nat) : Sample .rgb8 := (p[i]?.map Sample.toEight).getD (.clamp .rgb8 0)
  match f.channels with
  | .gray | .grayAlpha => #v[channel 0, channel 0, channel 0]
  | .rgb | .rgba => #v[channel 0, channel 1, channel 2]

/-- Every pixel in three channels of eight bits. -/
def Grid.toRgb {f : PixelFormat} {w h : Nat} (g : Grid f w h) : Grid .rgb8 w h :=
  g.map fun row => row.map Pixel.toRgb

namespace Picture

/-- The picture in three channels of eight bits. -/
def toRgb (p : Picture) : Picture :=
  ⟨.rgb8, p.width, p.height, Grid.toRgb p.grid⟩

/-- The sample that starts at that byte, the high byte first. Beyond the end all bytes are zero. -/
def sampleAt (f : PixelFormat) (bytes : ByteArray) (i : Nat) : Sample f :=
  let byte (k : Nat) : Nat := (bytes[k]?.map UInt8.toNat).getD 0
  match f.depth with
  | .eight => .clamp f (byte i)
  | .sixteen => .clamp f (256 * byte i + byte (i + 1))

/-- The picture whose samples stand in a sequence of bytes, row after row. -/
def ofBytes (f : PixelFormat) (w h : Nat) (bytes : ByteArray) : Picture :=
  ⟨f, w, h, Vector.ofFn fun y => Vector.ofFn fun x => Vector.ofFn fun c =>
    sampleAt f bytes (((y.val * w + x.val) * f.channels.count + c.val) * f.depth.bytes)⟩

/-- The samples of each row, one after the other. -/
def sampleRows (p : Picture) : List (List Nat) :=
  p.grid.toList.map fun row => row.toList.flatMap fun px => px.toList.map Fin.val

/-- The picture has at least one pixel. -/
def hasPixels (p : Picture) : Bool :=
  p.width != 0 && p.height != 0

end Picture

end AstCompare
