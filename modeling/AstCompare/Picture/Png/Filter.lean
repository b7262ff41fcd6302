import AstCompare.Compression.Checksum

/-!
# Filtered rows

Before the rows of a picture are compressed, every byte is replaced by its difference from a guess.
The guess is made from the byte to the left, the byte above and the byte above that to the left,
where bytes that belong to the same channel of neighbouring pixels are compared. Beyond the edges
all bytes are zero.

## Main definitions

* `Filter`, `Filter.guess`: the ways to guess.
* `Filter.apply`, `Filter.undo`: a row as differences, and back.
* `Filter.filtered`: a row as the smallest differences, with the number of the way in front.
-/

namespace AstCompare.Png

/-- A way to guess a byte. -/
inductive Filter where
  | nothing
  | left
  | above
  | average
  | nearest
  deriving DecidableEq, Repr

namespace Filter

/-- The way with a number. -/
def ofNumber? : Nat → Option Filter
  | 0 => some nothing
  | 1 => some left
  | 2 => some above
  | 3 => some average
  | 4 => some nearest
  | _ => none

/-- The number of a way. -/
def number : Filter → Nat
  | nothing => 0
  | left => 1
  | above => 2
  | average => 3
  | nearest => 4

/-- Of three bytes `a` to the left, `b` above and `c` above to the left, the one nearest to
`a + b - c`. -/
def nearestOf (a b c : Nat) : Nat :=
  let p : Int := a + b - c
  let (pa, pb, pc) := ((p - a).natAbs, (p - b).natAbs, (p - c).natAbs)
  if pa ≤ pb && pa ≤ pc then a else if pb ≤ pc then b else c

/-- The guess from the byte `a` to the left, `b` above and `c` above to the left. -/
def guess (f : Filter) (a b c : Nat) : Nat :=
  match f with
  | nothing => 0
  | left => a
  | above => b
  | average => (a + b) / 2
  | nearest => nearestOf a b c

/-- The guess for the byte at a place of a row. -/
def guessAt (f : Filter) (width : Nat) (up row : ByteArray) (i : Nat) : Nat :=
  if i < width then f.guess 0 (byteAt up i) 0
  else f.guess (byteAt row (i - width)) (byteAt up i) (byteAt up (i - width))

/-- The row of which the differences are given. A pixel takes `width` bytes. -/
def undo (f : Filter) (width : Nat) (up coded : ByteArray) : ByteArray :=
  (List.range coded.size).foldl (fun row i =>
    row.push (byteAt coded i + f.guessAt width up row i).toUInt8) .empty

/-- The differences of a row from the guesses. -/
def apply (f : Filter) (width : Nat) (up row : ByteArray) : ByteArray :=
  (List.range row.size).foldl (fun coded i =>
    coded.push (byteAt row i + 256 - f.guessAt width up row i).toUInt8) .empty

/-- How large the differences are, as numbers between -128 and 127. -/
def weight (coded : ByteArray) : Nat :=
  coded.data.foldl (fun n c => n + min c.toNat (256 - c.toNat)) 0

/-- The row as differences that are as small as possible, with the number of the way in front. Of
two equally good ways the later one is taken. -/
def filtered (width : Nat) (up row : ByteArray) : ByteArray :=
  let candidates := [left, above, average, nearest].map fun f => (f, f.apply width up row)
  let best := candidates.foldl (fun (best : Option (Nat × Filter × ByteArray)) (f, coded) =>
    let n := weight coded
    match best with
    | some (m, _) => if n ≤ m then some (n, f, coded) else best
    | none => some (n, f, coded)) none
  match best with
  | some (_, f, coded) => .mk #[f.number.toUInt8] ++ coded
  | none => .mk #[0] ++ row

end Filter

end AstCompare.Png
