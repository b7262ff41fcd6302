import AstCompare.Compression.Checksum

/-!
# Bits and code words

Compressed data is a row of bits, the lowest bit of a byte first. Symbols are written as code words
of different lengths, none of which begins another one. The lengths alone determine the words:
shorter words come before longer ones in the order of numbers, and of equally long words that of the
smaller symbol is first. A word stands in the row with its highest bit first; any other number with
its lowest.

## Main definitions

* `Reading`: reading from a row of bits.
* `Code`, `Code.ofLengths`: code words and how they follow from their lengths.
* `Code.symbol`: reads a code word.
* `Code.word`: the code word of a symbol.
-/

namespace AstCompare.Compression

/-- Reads from a row of bits, of which those before a place have been read. -/
abbrev Reading := ReaderT ByteArray (StateT Nat Option)

/-- The next `n` bits as a number, without reading them. There are at most sixteen; beyond the end
all bits are zero. -/
def peek (b : ByteArray) (place n : Nat) : Nat :=
  let i := place / 8
  ((byteAt b i + 256 * byteAt b (i + 1) + 65536 * byteAt b (i + 2)) >>> (place % 8)) % Nat.pow 2 n

/-- Passes over bits, which have to be there. -/
def skip (n : Nat) : Reading Unit := do
  let b ← read
  let place ← get
  if place + n ≤ 8 * b.size then set (place + n) else failure

/-- Reads a number of at most sixteen bits. -/
def number (n : Nat) : Reading Nat := do
  let v := peek (← read) (← get) n
  skip n
  return v

/-- Passes over the rest of a byte that has been begun. -/
def align : Reading Unit :=
  modify fun place => (place + 7) / 8 * 8

/-- The greatest length of a code word. -/
def maxLength : Nat := 15

/-- How many words there are of each length from one on, and the symbols in the order of their
words. -/
structure Code where
  counts : List Nat
  symbols : Array Nat

namespace Code

/-- The symbols whose words have a length. -/
def ofLength (lengths : List Nat) (n : Nat) : List Nat :=
  lengths.zipIdx.filterMap fun (m, s) => if m = n then some s else none

/-- The code in which each symbol has a word of the given length; of length zero there is none. -/
def ofLengths (lengths : List Nat) : Code :=
  let groups := (List.range maxLength).map fun n => ofLength lengths (n + 1)
  ⟨groups.map List.length, groups.flatten.toArray⟩

/-- How many of the words of the greatest length are used up, a shorter word counting for all that
it begins. -/
def used (c : Code) : Nat :=
  (c.counts.zipIdx.map fun (n, i) => n * Nat.pow 2 (maxLength - 1 - i)).foldl (· + ·) 0

/-- Every row of bits begins with a word. -/
def isComplete (c : Code) : Bool :=
  c.used == Nat.pow 2 maxLength

/-- There is only one word, and it has one bit. -/
def isSingle (c : Code) : Bool :=
  c.symbols.size == 1 && c.counts.head? == some 1

/-- Looks for the word at the beginning of `bits`: `first` is the first word of the present length
and `index` the place of its symbol. Gives the place of the symbol and the length. -/
def find (bits : Nat) : List Nat → (length word first index : Nat) → Option (Nat × Nat)
  | [], _, _, _, _ => none
  | n :: counts, length, word, first, index =>
    let word := word + bits % 2
    if word < first + n then some (index + (word - first), length + 1)
    else find (bits / 2) counts (length + 1) (2 * word) (2 * (first + n)) (index + n)

/-- Reads a code word. -/
def symbol (c : Code) : Reading Nat := do
  match find (peek (← read) (← get) maxLength) c.counts 0 0 0 0 with
  | none => failure
  | some (i, n) =>
    skip n
    match c.symbols[i]? with
    | some s => return s
    | none => failure

end Code

/-- The lowest `n` bits of a number in the opposite order. -/
def reversed : (n value : Nat) → Nat
  | 0, _ => 0
  | n + 1, v => v % 2 * Nat.pow 2 n + reversed n (v / 2)

/-- The words of a code by symbol, as numbers whose lowest bit is written first, with their lengths.
A symbol without a word has the length zero. -/
def words (lengths : List Nat) : Array (Nat × Nat) :=
  let code := Code.ofLengths lengths
  let firsts := code.counts.foldl (fun ((fs, first) : List Nat × Nat) n =>
    (fs ++ [first], 2 * (first + n))) ([], 0)
  (lengths.zipIdx.map fun (n, s) =>
    if n = 0 then (0, 0)
    else (reversed n (firsts.1.getD (n - 1) 0 + (Code.ofLength lengths n).idxOf s), n)).toArray

end AstCompare.Compression
