/-!
# Check sums

Two sums tell whether bytes have been damaged on their way. The first treats the bytes as the
coefficients of a polynomial and keeps the remainder of a division; the second adds the bytes up,
and also adds up the sums on the way.

## Main definitions

* `Checksum.remainder`: the remainder, in thirty-two bits.
* `Checksum.doubleSum`: both sums, each modulo a prime.
-/

namespace AstCompare

/-- The byte at a place; beyond the end all bytes are zero. -/
def byteAt (b : ByteArray) (i : Nat) : Nat :=
  if h : i < b.size then (b.get i h).toNat else 0

/-- The lowest `n` bytes of a number, the highest of them first. -/
def bigEndian (n value : Nat) : ByteArray :=
  ⟨((List.range n).map fun i => (value / Nat.pow 256 (n - 1 - i)).toUInt8).toArray⟩

/-- The lowest `n` bytes of a number, the lowest first. -/
def littleEndian (n value : Nat) : ByteArray :=
  ⟨((List.range n).map fun i => (value / Nat.pow 256 i).toUInt8).toArray⟩

/-- The number that `n` bytes from a place on make, the highest first. -/
def numberAt (b : ByteArray) (i n : Nat) : Nat :=
  (List.range n).foldl (fun v k => 256 * v + byteAt b (i + k)) 0

namespace Checksum

/-- Divides once more. -/
def divide (c : UInt32) : UInt32 :=
  if c &&& 1 = 1 then (0xEDB88320 : UInt32) ^^^ (c >>> 1) else c >>> 1

/-- The remainders of all bytes. -/
def remainders : Array UInt32 :=
  (Array.range 256).map fun n => (List.range 8).foldl (fun c _ => divide c) n.toUInt32

/-- Takes one more byte into a remainder. -/
def takeByte (c : UInt32) (b : UInt8) : UInt32 :=
  remainders[((c ^^^ b.toUInt32) &&& 255).toNat]?.getD 0 ^^^ (c >>> 8)

/-- The remainder of a row of bytes. -/
def remainder (b : ByteArray) : Nat :=
  (b.data.foldl takeByte 0xFFFFFFFF ^^^ (0xFFFFFFFF : UInt32)).toNat

/-- The modulus of the sums. -/
def prime : UInt32 := 65521

/-- The sum of the sums in the upper half, the sum of the bytes in the lower. -/
def doubleSum (b : ByteArray) : Nat :=
  let (s, t) := b.data.foldl (fun ((s, t) : UInt32 × UInt32) c =>
    let s := (s + c.toUInt32) % prime
    (s, (t + s) % prime)) (1, 0)
  65536 * t.toNat + s.toNat

end Checksum

end AstCompare
