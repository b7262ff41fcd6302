import AstCompare.Compression.Huffman

/-!
# Reading compressed data

Compressed data is a row of blocks. A block holds bytes as they are, or symbols: a symbol stands for
one byte, for the end of the block, or for a repetition of bytes that came before, of which the
length and the distance follow. The code words are either agreed upon or described at the beginning
of the block.

The blocks stand between a header of two bytes and a check sum of four. The check sum has to be
there, but it is not compared.

## Main definitions

* `block`: reads one block.
* `inflate?`: the bytes that were compressed.
-/

namespace AstCompare.Compression

/-- A number that is given as a base and further bits. -/
abbrev Span := Nat × Nat

/-- The lengths of the repetitions. -/
def lengthSpans : Array Span :=
  #[(3, 0), (4, 0), (5, 0), (6, 0), (7, 0), (8, 0), (9, 0), (10, 0), (11, 1), (13, 1), (15, 1),
    (17, 1), (19, 2), (23, 2), (27, 2), (31, 2), (35, 3), (43, 3), (51, 3), (59, 3), (67, 4),
    (83, 4), (99, 4), (115, 4), (131, 5), (163, 5), (195, 5), (227, 5), (258, 0)]

/-- The distances of the repetitions. -/
def distanceSpans : Array Span :=
  #[(1, 0), (2, 0), (3, 0), (4, 0), (5, 1), (7, 1), (9, 2), (13, 2), (17, 3), (25, 3), (33, 4),
    (49, 4), (65, 5), (97, 5), (129, 6), (193, 6), (257, 7), (385, 7), (513, 8), (769, 8),
    (1025, 9), (1537, 9), (2049, 10), (3073, 10), (4097, 11), (6145, 11), (8193, 12), (12289, 12),
    (16385, 13), (24577, 13)]

/-- Reads the number that a symbol introduces. -/
def spanned (spans : Array Span) (s : Nat) : Reading Nat :=
  match spans[s]? with
  | none => failure
  | some (base, extra) => return base + (← number extra)

/-- Repeats bytes from a distance. -/
def repeated (distance : Nat) : Nat → ByteArray → ByteArray
  | 0, out => out
  | n + 1, out => repeated distance n (out.push (byteAt out (out.size - distance)).toUInt8)

/-- The symbol at the end of a block. -/
def blockEnd : Nat := 256

/-- Reads symbols up to the end of the block. Every symbol takes at least one bit, so `fuel` is the
number of bits. -/
def symbols (literals distances : Code) : Nat → ByteArray → Reading ByteArray
  | 0, _ => failure
  | fuel + 1, out => do
    let s ← literals.symbol
    if s < blockEnd then symbols literals distances fuel (out.push s.toUInt8)
    else if s = blockEnd then return out
    else
      let n ← spanned lengthSpans (s - blockEnd - 1)
      let d ← spanned distanceSpans (← distances.symbol)
      if out.size < d then failure
      symbols literals distances fuel (repeated d n out)

/-- The code words that are agreed upon. -/
def agreedLiterals : Code :=
  .ofLengths (List.replicate 144 8 ++ List.replicate 112 9 ++ List.replicate 24 7 ++
    List.replicate 8 8)

/-- The code words for distances that are agreed upon. -/
def agreedDistances : Code :=
  .ofLengths (List.replicate 32 5)

/-- The order in which the lengths of the first code are described. -/
def descriptionOrder : List Nat :=
  [16, 17, 18, 0, 8, 7, 9, 6, 10, 5, 11, 4, 12, 3, 13, 2, 14, 1, 15]

/-- Reads a number of lengths, the latest first. `fuel` is the number of lengths that are
missing. -/
def lengthsFrom (code : Code) : (fuel missing : Nat) → List Nat → Reading (List Nat)
  | _, 0, read => return read
  | 0, _, _ => failure
  | fuel + 1, missing, read => do
    let s ← code.symbol
    let (value, times) ←
      if s < 16 then pure (s, 1)
      else if s = 16 then
        match read with
        | [] => failure
        | n :: _ => pure (n, 3 + (← number 2))
      else if s = 17 then pure (0, 3 + (← number 3))
      else pure (0, 11 + (← number 7))
    if missing < times then failure
    lengthsFrom code fuel (missing - times) (List.replicate times value ++ read)

/-- Reads the description of the code words of a block. -/
def description : Reading (Code × Code) := do
  let literals := 257 + (← number 5)
  let distances := 1 + (← number 5)
  if 286 < literals || 30 < distances then failure
  let n := 4 + (← number 4)
  let given ← (descriptionOrder.take n).mapM fun s => return (s, ← number 3)
  let code := Code.ofLengths ((List.range 19).map fun s => (given.lookup s).getD 0)
  if !code.isComplete then failure
  let all := (← lengthsFrom code (literals + distances) (literals + distances) []).reverse
  let first := Code.ofLengths (all.take literals)
  let second := Code.ofLengths (all.drop literals)
  if !first.isComplete || all[blockEnd]? == some 0 then failure
  if !second.symbols.isEmpty && !second.isSingle && !second.isComplete then failure
  return (first, second)

/-- Reads a block of bytes as they are. -/
def plainBlock (out : ByteArray) : Reading ByteArray := do
  align
  let n ← number 16
  let m ← number 16
  if n + m ≠ 65535 then failure
  let start := (← get) / 8
  skip (8 * n)
  return out ++ (← read).extract start (start + n)

/-- Reads one block, and says whether it is the last one. -/
def block (out : ByteArray) : Reading (ByteArray × Bool) := do
  let last := (← number 1) == 1
  let fuel := 8 * (← read).size
  match ← number 2 with
  | 0 => return (← plainBlock out, last)
  | 1 => return (← symbols agreedLiterals agreedDistances fuel out, last)
  | 2 =>
    let (literals, distances) ← description
    return (← symbols literals distances fuel out, last)
  | _ => failure

/-- Reads all blocks. Every block takes bits, so `fuel` is their number. -/
def blocks : Nat → ByteArray → Reading ByteArray
  | 0, _ => failure
  | fuel + 1, out => do
    let (out, last) ← block out
    if last then return out else blocks fuel out

/-- Reads the header, the blocks and the check sum. -/
def stream : Reading ByteArray := do
  let first ← number 8
  let second ← number 8
  if first % 16 ≠ 8 || 0x7f < first || second / 32 % 2 = 1 ||
      (256 * first + second) % 31 ≠ 0 then
    failure
  let out ← blocks (8 * (← read).size) .empty
  align
  skip 32
  return out

/-- The bytes that were compressed, if the data is sound. What follows the check sum does not
matter. -/
def inflate? (b : ByteArray) : Option ByteArray :=
  (stream.run b 0).map Prod.fst

end AstCompare.Compression
