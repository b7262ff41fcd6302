import AstCompare.Compression.Huffman

/-!
# Writing compressed data

Picture data holds many zeros once its rows have been filtered. The writer below knows one set of
code words, made for such data, and it only looks for zeros that repeat. Every row is written on its
own, in groups of eight bytes: zeros at the end of a group are counted together with those of the
groups that follow. Data that would grow is kept as it is instead.

## Main definitions

* `Writer`: a row of bits that is being written.
* `compress`: rows of bytes as compressed data.
* `store`: bytes as they are, in the form of compressed data.
-/

namespace AstCompare.Compression

/-- Bytes that are complete, and bits of the next one. -/
structure Writer where
  bytes : ByteArray := .empty
  pending : Nat := 0
  count : Nat := 0

namespace Writer

/-- Moves complete bytes from the pending bits. -/
def flush : Nat → ByteArray → Nat → ByteArray × Nat
  | 0, bytes, pending => (bytes, pending)
  | n + 1, bytes, pending => flush n (bytes.push pending.toUInt8) (pending / 256)

/-- Writes a number of `n` bits. -/
def put (w : Writer) (value n : Nat) : Writer :=
  let count := w.count + n
  let (bytes, pending) := flush (count / 8) w.bytes (w.pending + value * Nat.pow 2 w.count)
  ⟨bytes, pending, count % 8⟩

/-- The bytes, the last of them filled up with zeros. -/
def close (w : Writer) : ByteArray :=
  if w.count = 0 then w.bytes else w.bytes.push w.pending.toUInt8

end Writer

/-- Lengths with the number of symbols in a row that have them. -/
abbrev Runs := List (Nat × Nat)

/-- The lengths one by one. -/
def Runs.expand (r : Runs) : List Nat :=
  r.flatMap fun (n, times) => List.replicate times n

/-- The lengths of the code words for bytes and repetitions. -/
def filteredLengths : List Nat :=
  Runs.expand
    [(2, 1), (3, 1), (4, 1), (5, 2), (6, 2), (7, 3), (8, 5), (9, 7), (10, 9), (11, 12), (12, 171),
      (11, 10), (10, 1), (11, 1), (10, 9), (9, 5), (8, 1), (9, 1), (8, 5), (7, 3), (6, 3), (5, 1),
      (4, 1), (3, 1), (12, 3), (9, 2), (11, 1), (10, 1), (11, 2), (10, 1), (11, 6), (12, 1),
      (11, 1), (12, 11), (9, 1)]

/-- The code words for bytes and repetitions. -/
def filteredWords : Array (Nat × Nat) :=
  words filteredLengths

/-- The beginning of compressed data: the header, and the description of the code words in the first
and only block. Of the last byte five bits count. -/
def opening : List Nat :=
  [120, 1, 237, 192, 3, 160, 36, 89, 150, 198, 241, 255, 119, 238, 141, 200, 204, 167, 114, 75, 99,
    174, 109, 219, 182, 109, 219, 182, 109, 219, 182, 109, 105, 140, 158, 150, 74, 175, 158, 50, 51,
    34, 238, 249, 118, 183, 106, 122, 166, 135, 59, 107, 213, 15]

/-- Writes the code word of a symbol. -/
def Writer.symbol (w : Writer) (s : Nat) : Writer :=
  let (value, n) := filteredWords[s]?.getD (0, 0)
  w.put value n

/-- The symbols for the lengths of repetitions, with the base and the number of further bits. -/
def lengthSymbols : List (Nat × Nat × Nat) :=
  [(285, 258, 0), (284, 227, 5), (283, 195, 5), (282, 163, 5), (281, 131, 5), (280, 115, 4),
    (279, 99, 4), (278, 83, 4), (277, 67, 4), (276, 59, 3), (275, 51, 3), (274, 43, 3),
    (273, 35, 3), (272, 31, 2), (271, 27, 2), (270, 23, 2), (269, 19, 2), (268, 17, 1),
    (267, 15, 1), (266, 13, 1), (265, 11, 1), (264, 10, 0), (263, 9, 0), (262, 8, 0), (261, 7, 0),
    (260, 6, 0), (259, 5, 0), (258, 4, 0), (257, 3, 0)]

/-- Writes the repetition of the last byte. The only word for a distance is one zero. -/
def Writer.again (w : Writer) (n : Nat) : Writer :=
  match lengthSymbols.find? fun (_, base, _) => base ≤ n with
  | some (s, base, extra) => (w.symbol s).put (n - base) (extra + 1)
  | none => w

/-- Writes a row of zeros: one by itself, and then repetitions as long as possible. -/
def Writer.zeros (w : Writer) (n : Nat) : Writer :=
  let rest := n - 1
  let w := (List.range (rest / 258)).foldl (fun w _ => w.again 258) (w.symbol 0)
  let rest := rest % 258
  if 4 < rest then w.again rest else (List.range rest).foldl (fun w _ => w.symbol 0) w

/-- Writes a group of eight bytes after `run` zeros that have not been written yet, and counts the
zeros at its end. -/
def Writer.group (w : Writer) (run : Nat) (group : List Nat) : Writer × Nat :=
  if group.all (· == 0) then (w, run + group.length)
  else
    let before := if run = 0 then [] else group.takeWhile (· == 0)
    let w := if run = 0 then w else w.zeros (run + before.length)
    let after := group.reverse.takeWhile (· == 0)
    let middle := (group.drop before.length).take (group.length - before.length - after.length)
    (middle.foldl Writer.symbol w, after.length)

/-- Writes a row of bytes. -/
def Writer.row (w : Writer) (b : ByteArray) : Writer :=
  let (w, run) := (List.range (b.size / 8)).foldl (fun ((w, run) : Writer × Nat) i =>
    w.group run ((List.range 8).map fun k => byteAt b (8 * i + k))) (w, 0)
  let w := if run = 0 then w else w.zeros run
  (List.range (b.size % 8)).foldl (fun w k => w.symbol (byteAt b (b.size / 8 * 8 + k))) w

/-- Rows of bytes as compressed data. -/
def compress (rows : List ByteArray) : ByteArray :=
  let start : Writer := ⟨⟨((opening.take 53).map Nat.toUInt8).toArray⟩, 0, 0⟩
  let w := rows.foldl Writer.row (start.put (opening.getD 53 0) 5)
  (w.symbol 256).close ++ bigEndian 4 (Checksum.doubleSum (rows.foldl (· ++ ·) .empty))

/-- The greatest number of bytes of a block that holds them as they are. -/
def maxPlain : Nat := 65535

/-- Bytes as they are, in the form of compressed data. -/
def store (b : ByteArray) : ByteArray :=
  let n := (b.size + maxPlain - 1) / maxPlain
  let block (i : Nat) : ByteArray :=
    let piece := b.extract (i * maxPlain) ((i + 1) * maxPlain)
    .mk #[if i + 1 = n then 1 else 0] ++ littleEndian 2 piece.size ++
      littleEndian 2 (maxPlain - piece.size) ++ piece
  (List.range n).foldl (fun out i => out ++ block i) (.mk #[0x78, 0x01]) ++
    bigEndian 4 (Checksum.doubleSum b)

end AstCompare.Compression
