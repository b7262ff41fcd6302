import AstCompare.Shell.Tool.Bytes
import AstCompare.Shell.Tool.Columns

/-!
# Checksums and codes

Programs that print a short number for the contents of files, and one that writes bytes with
printable characters. The sums work on blocks of sixteen words: the text is filled up with a one,
zeros and its length, and each block changes a small state.

## Main definitions

* `Digest.md5`, `Digest.sha1`, `Digest.sha256`, `Digest.sha512`, `Digest.crc`: the sums.
* `Digest.encode`, `Digest.decode`: the code with printable characters.
* `printSums`, `printCounts`, `printSmallSums`, `recode`: the programs.
-/

namespace AstCompare.Shell.Tool

namespace Digest

/-! ### Blocks -/

/-- The word with its bits moved to the left, round. -/
def rotateLeft (x n : UInt32) : UInt32 :=
  (x <<< n) ||| (x >>> (32 - n))

/-- The bytes of a number, the lowest first. -/
def bytesOf (count n : Nat) : List UInt8 :=
  (List.range count).map fun i => (n / Nat.pow 256 i % 256).toUInt8

/-- The bytes filled up to whole blocks, with their number in the end. -/
def filled (lowFirst : Bool) (b : ByteArray) : List UInt8 :=
  let zeros := (119 - b.size % 64) % 64
  let length := bytesOf 8 (8 * b.size)
  b.data.toList ++ 128 :: List.replicate zeros 0 ++ if lowFirst then length else length.reverse

/-- The words that bytes make up. -/
def wordsOf (lowFirst : Bool) : List UInt8 → List UInt32
  | a :: b :: c :: d :: rest =>
    let word (a b c d : UInt8) : UInt32 :=
      (a.toUInt32 <<< 24) ||| (b.toUInt32 <<< 16) ||| (c.toUInt32 <<< 8) ||| d.toUInt32
    (if lowFirst then word d c b a else word a b c d) :: wordsOf lowFirst rest
  | _ => []

/-- The words in blocks of sixteen. `fuel` bounds their number. -/
def blocksOf (fuel : Nat) (ws : List UInt32) : List (Array UInt32) :=
  match fuel, ws with
  | 0, _ | _, [] => []
  | fuel + 1, ws => (ws.take 16).toArray :: blocksOf fuel (ws.drop 16)

/-- The blocks of a text. -/
def blocks (lowFirst : Bool) (b : ByteArray) : List (Array UInt32) :=
  let ws := wordsOf lowFirst (filled lowFirst b)
  blocksOf ws.length ws

/-- A word with two digits of base sixteen for each byte. -/
def hexWord (lowFirst : Bool) (x : UInt32) : String :=
  let bytes := bytesOf 4 x.toNat
  String.join ((if lowFirst then bytes else bytes.reverse).map fun c => zeroPadded 16 2 c.toNat)

/-! ### Sums -/

/-- The constants of the rounds. -/
def md5Constants : Array UInt32 :=
  #[
    0xd76aa478, 0xe8c7b756, 0x242070db, 0xc1bdceee, 0xf57c0faf, 0x4787c62a, 0xa8304613, 0xfd469501,
    0x698098d8, 0x8b44f7af, 0xffff5bb1, 0x895cd7be, 0x6b901122, 0xfd987193, 0xa679438e, 0x49b40821,
    0xf61e2562, 0xc040b340, 0x265e5a51, 0xe9b6c7aa, 0xd62f105d, 0x02441453, 0xd8a1e681, 0xe7d3fbc8,
    0x21e1cde6, 0xc33707d6, 0xf4d50d87, 0x455a14ed, 0xa9e3e905, 0xfcefa3f8, 0x676f02d9, 0x8d2a4c8a,
    0xfffa3942, 0x8771f681, 0x6d9d6122, 0xfde5380c, 0xa4beea44, 0x4bdecfa9, 0xf6bb4b60, 0xbebfbc70,
    0x289b7ec6, 0xeaa127fa, 0xd4ef3085, 0x04881d05, 0xd9d4d039, 0xe6db99e5, 0x1fa27cf8, 0xc4ac5665,
    0xf4292244, 0x432aff97, 0xab9423a7, 0xfc93a039, 0x655b59c3, 0x8f0ccc92, 0xffeff47d, 0x85845dd1,
    0x6fa87e4f, 0xfe2ce6e0, 0xa3014314, 0x4e0811a1, 0xf7537e82, 0xbd3af235, 0x2ad7d2bb, 0xeb86d391]

/-- How far each round turns. -/
def md5Turns : Array UInt32 :=
  #[7, 12, 17, 22, 5, 9, 14, 20, 4, 11, 16, 23, 6, 10, 15, 21]

/-- One round of a block. -/
def md5Round (block : Array UInt32) (s : UInt32 × UInt32 × UInt32 × UInt32) (i : Nat) :
    UInt32 × UInt32 × UInt32 × UInt32 :=
  let (a, b, c, d) := s
  let (f, g) := match i / 16 with
    | 0 => ((b &&& c) ||| (~~~b &&& d), i)
    | 1 => ((d &&& b) ||| (~~~d &&& c), (5 * i + 1) % 16)
    | 2 => (b ^^^ c ^^^ d, (3 * i + 5) % 16)
    | _ => (c ^^^ (b ||| ~~~d), 7 * i % 16)
  let turned := rotateLeft (a + f + md5Constants.getD i 0 + block.getD g 0)
    (md5Turns.getD (4 * (i / 16) + i % 4) 0)
  (d, b + turned, b, c)

/-- The sum with sixteen bytes. -/
def md5 (b : ByteArray) : String :=
  let (a, b, c, d) := (blocks true b).foldl (fun s block =>
    let (a, b, c, d) := (List.range 64).foldl (md5Round block) s
    (s.1 + a, s.2.1 + b, s.2.2.1 + c, s.2.2.2 + d)) (0x67452301, 0xefcdab89, 0x98badcfe, 0x10325476)
  String.join ([a, b, c, d].map (hexWord true))

/-- The words of a block, and further ones that are mixed from them. -/
def sha1Schedule (block : Array UInt32) : Array UInt32 :=
  (List.range 64).foldl (fun w i =>
    let i := i + 16
    w.push
      (rotateLeft
        (w.getD (i - 3) 0 ^^^ w.getD (i - 8) 0 ^^^ w.getD (i - 14) 0 ^^^ w.getD (i - 16) 0) 1))
    block

/-- One round of a block. -/
def sha1Round (w : Array UInt32) (s : UInt32 × UInt32 × UInt32 × UInt32 × UInt32) (i : Nat) :
    UInt32 × UInt32 × UInt32 × UInt32 × UInt32 :=
  let (a, b, c, d, e) := s
  let (f, k) : UInt32 × UInt32 := match i / 20 with
    | 0 => ((b &&& c) ||| (~~~b &&& d), 0x5a827999)
    | 1 => (b ^^^ c ^^^ d, 0x6ed9eba1)
    | 2 => ((b &&& c) ||| (b &&& d) ||| (c &&& d), 0x8f1bbcdc)
    | _ => (b ^^^ c ^^^ d, 0xca62c1d6)
  (rotateLeft a 5 + f + e + k + w.getD i 0, a, rotateLeft b 30, c, d)

/-- The sum with twenty bytes. -/
def sha1 (b : ByteArray) : String :=
  let (a, b, c, d, e) := (blocks false b).foldl (fun s block =>
    let (a, b, c, d, e) := (List.range 80).foldl (sha1Round (sha1Schedule block)) s
    (s.1 + a, s.2.1 + b, s.2.2.1 + c, s.2.2.2.1 + d, s.2.2.2.2 + e))
    (0x67452301, 0xefcdab89, 0x98badcfe, 0x10325476, 0xc3d2e1f0)
  String.join ([a, b, c, d, e].map (hexWord false))

/-- The constants of the rounds. -/
def sha256Constants : Array UInt32 :=
  #[
    0x428a2f98, 0x71374491, 0xb5c0fbcf, 0xe9b5dba5, 0x3956c25b, 0x59f111f1, 0x923f82a4, 0xab1c5ed5,
    0xd807aa98, 0x12835b01, 0x243185be, 0x550c7dc3, 0x72be5d74, 0x80deb1fe, 0x9bdc06a7, 0xc19bf174,
    0xe49b69c1, 0xefbe4786, 0x0fc19dc6, 0x240ca1cc, 0x2de92c6f, 0x4a7484aa, 0x5cb0a9dc, 0x76f988da,
    0x983e5152, 0xa831c66d, 0xb00327c8, 0xbf597fc7, 0xc6e00bf3, 0xd5a79147, 0x06ca6351, 0x14292967,
    0x27b70a85, 0x2e1b2138, 0x4d2c6dfc, 0x53380d13, 0x650a7354, 0x766a0abb, 0x81c2c92e, 0x92722c85,
    0xa2bfe8a1, 0xa81a664b, 0xc24b8b70, 0xc76c51a3, 0xd192e819, 0xd6990624, 0xf40e3585, 0x106aa070,
    0x19a4c116, 0x1e376c08, 0x2748774c, 0x34b0bcb5, 0x391c0cb3, 0x4ed8aa4a, 0x5b9cca4f, 0x682e6ff3,
    0x748f82ee, 0x78a5636f, 0x84c87814, 0x8cc70208, 0x90befffa, 0xa4506ceb, 0xbef9a3f7, 0xc67178f2]

/-- The state before the first block. -/
def sha256Start : Array UInt32 :=
  #[
    0x6a09e667, 0xbb67ae85, 0x3c6ef372, 0xa54ff53a, 0x510e527f, 0x9b05688c, 0x1f83d9ab, 0x5be0cd19]

/-- The words of a block, and further ones that are mixed from them. -/
def sha256Schedule (block : Array UInt32) : Array UInt32 :=
  (List.range 48).foldl (fun w i =>
    let i := i + 16
    let x := w.getD (i - 15) 0
    let y := w.getD (i - 2) 0
    let s := rotateLeft x 25 ^^^ rotateLeft x 14 ^^^ (x >>> 3)
    let t := rotateLeft y 15 ^^^ rotateLeft y 13 ^^^ (y >>> 10)
    w.push (w.getD (i - 16) 0 + s + w.getD (i - 7) 0 + t)) block

/-- One round of a block. -/
def sha256Round (w : Array UInt32) (s : Array UInt32) (i : Nat) : Array UInt32 :=
  let a := s.getD 0 0
  let b := s.getD 1 0
  let c := s.getD 2 0
  let e := s.getD 4 0
  let mixed := rotateLeft e 26 ^^^ rotateLeft e 21 ^^^ rotateLeft e 7
  let chosen := (e &&& s.getD 5 0) ^^^ (~~~e &&& s.getD 6 0)
  let t := s.getD 7 0 + mixed + chosen + sha256Constants.getD i 0 + w.getD i 0
  let u := (rotateLeft a 30 ^^^ rotateLeft a 19 ^^^ rotateLeft a 10) +
    ((a &&& b) ^^^ (a &&& c) ^^^ (b &&& c))
  #[t + u, a, b, c, s.getD 3 0 + t, e, s.getD 5 0, s.getD 6 0]

/-- The state after all blocks of a text. -/
def sha256From (start : Array UInt32) (b : ByteArray) : List UInt32 :=
  ((blocks false b).foldl (fun s block =>
    let t := (List.range 64).foldl (sha256Round (sha256Schedule block)) s
    s.zipWith (· + ·) t) start).toList

/-- The sum with thirty-two bytes. -/
def sha256 (b : ByteArray) : String :=
  String.join ((sha256From sha256Start b).map (hexWord false))

/-- The state before the first block, for the shorter sum. -/
def sha224Start : Array UInt32 :=
  #[
    0xc1059ed8, 0x367cd507, 0x3070dd17, 0xf70e5939, 0xffc00b31, 0x68581511, 0x64f98fa7, 0xbefa4fa4]

/-- The sum with twenty-eight bytes. -/
def sha224 (b : ByteArray) : String :=
  String.join (((sha256From sha224Start b).take 7).map (hexWord false))

/-! ### Sums of long words -/

/-- The long word with its bits moved to the right, round. -/
def rotateRight (x n : UInt64) : UInt64 :=
  (x >>> n) ||| (x <<< (64 - n))

/-- The constants of the rounds. -/
def sha512Constants : Array UInt64 :=
  #[
    0x428a2f98d728ae22, 0x7137449123ef65cd, 0xb5c0fbcfec4d3b2f, 0xe9b5dba58189dbbc,
    0x3956c25bf348b538, 0x59f111f1b605d019, 0x923f82a4af194f9b, 0xab1c5ed5da6d8118,
    0xd807aa98a3030242, 0x12835b0145706fbe, 0x243185be4ee4b28c, 0x550c7dc3d5ffb4e2,
    0x72be5d74f27b896f, 0x80deb1fe3b1696b1, 0x9bdc06a725c71235, 0xc19bf174cf692694,
    0xe49b69c19ef14ad2, 0xefbe4786384f25e3, 0x0fc19dc68b8cd5b5, 0x240ca1cc77ac9c65,
    0x2de92c6f592b0275, 0x4a7484aa6ea6e483, 0x5cb0a9dcbd41fbd4, 0x76f988da831153b5,
    0x983e5152ee66dfab, 0xa831c66d2db43210, 0xb00327c898fb213f, 0xbf597fc7beef0ee4,
    0xc6e00bf33da88fc2, 0xd5a79147930aa725, 0x06ca6351e003826f, 0x142929670a0e6e70,
    0x27b70a8546d22ffc, 0x2e1b21385c26c926, 0x4d2c6dfc5ac42aed, 0x53380d139d95b3df,
    0x650a73548baf63de, 0x766a0abb3c77b2a8, 0x81c2c92e47edaee6, 0x92722c851482353b,
    0xa2bfe8a14cf10364, 0xa81a664bbc423001, 0xc24b8b70d0f89791, 0xc76c51a30654be30,
    0xd192e819d6ef5218, 0xd69906245565a910, 0xf40e35855771202a, 0x106aa07032bbd1b8,
    0x19a4c116b8d2d0c8, 0x1e376c085141ab53, 0x2748774cdf8eeb99, 0x34b0bcb5e19b48a8,
    0x391c0cb3c5c95a63, 0x4ed8aa4ae3418acb, 0x5b9cca4f7763e373, 0x682e6ff3d6b2b8a3,
    0x748f82ee5defb2fc, 0x78a5636f43172f60, 0x84c87814a1f0ab72, 0x8cc702081a6439ec,
    0x90befffa23631e28, 0xa4506cebde82bde9, 0xbef9a3f7b2c67915, 0xc67178f2e372532b,
    0xca273eceea26619c, 0xd186b8c721c0c207, 0xeada7dd6cde0eb1e, 0xf57d4f7fee6ed178,
    0x06f067aa72176fba, 0x0a637dc5a2c898a6, 0x113f9804bef90dae, 0x1b710b35131c471b,
    0x28db77f523047d84, 0x32caab7b40c72493, 0x3c9ebe0a15c9bebc, 0x431d67c49c100d4c,
    0x4cc5d4becb3e42b6, 0x597f299cfc657e2a, 0x5fcb6fab3ad6faec, 0x6c44198c4a475817]

/-- The state before the first block. -/
def sha512Start : Array UInt64 :=
  #[
    0x6a09e667f3bcc908, 0xbb67ae8584caa73b, 0x3c6ef372fe94f82b, 0xa54ff53a5f1d36f1,
    0x510e527fade682d1, 0x9b05688c2b3e6c1f, 0x1f83d9abfb41bd6b, 0x5be0cd19137e2179]

/-- The state before the first block, for the shorter sum. -/
def sha384Start : Array UInt64 :=
  #[
    0xcbbb9d5dc1059ed8, 0x629a292a367cd507, 0x9159015a3070dd17, 0x152fecd8f70e5939,
    0x67332667ffc00b31, 0x8eb44a8768581511, 0xdb0c2e0d64f98fa7, 0x47b5481dbefa4fa4]

/-- The long words in blocks of sixteen, of the bytes filled up with their number in the end. -/
def longBlocks (b : ByteArray) : List (Array UInt64) :=
  let zeros := (239 - b.size % 128) % 128
  let bytes := b.data.toList ++ 128 :: List.replicate zeros 0 ++ (bytesOf 16 (8 * b.size)).reverse
  (blocksOf (bytes.length / 4) (wordsOf false bytes)).zipIdx.foldr (fun (half, i) done =>
    -- Sixteen short words are eight long ones.
    let longs := (List.range 8).map fun k =>
      (((half.getD (2 * k) 0).toNat * 0x100000000 + (half.getD (2 * k + 1) 0).toNat) : Nat).toUInt64
    if i % 2 == 1 then longs.toArray :: done
    else match done with
      | second :: rest => (longs.toArray ++ second) :: rest
      | [] => []) []

/-- The long words of a block, and further ones that are mixed from them. -/
def sha512Schedule (block : Array UInt64) : Array UInt64 :=
  (List.range 64).foldl (fun w i =>
    let i := i + 16
    let x := w.getD (i - 15) 0
    let y := w.getD (i - 2) 0
    let s := rotateRight x 1 ^^^ rotateRight x 8 ^^^ (x >>> 7)
    let t := rotateRight y 19 ^^^ rotateRight y 61 ^^^ (y >>> 6)
    w.push (w.getD (i - 16) 0 + s + w.getD (i - 7) 0 + t)) block

/-- One round of a block of long words. -/
def sha512Round (w : Array UInt64) (s : Array UInt64) (i : Nat) : Array UInt64 :=
  let a := s.getD 0 0
  let b := s.getD 1 0
  let c := s.getD 2 0
  let e := s.getD 4 0
  let mixed := rotateRight e 14 ^^^ rotateRight e 18 ^^^ rotateRight e 41
  let chosen := (e &&& s.getD 5 0) ^^^ (~~~e &&& s.getD 6 0)
  let t := s.getD 7 0 + mixed + chosen + sha512Constants.getD i 0 + w.getD i 0
  let u := (rotateRight a 28 ^^^ rotateRight a 34 ^^^ rotateRight a 39) +
    ((a &&& b) ^^^ (a &&& c) ^^^ (b &&& c))
  #[t + u, a, b, c, s.getD 3 0 + t, e, s.getD 5 0, s.getD 6 0]

/-- The first long words of the state after all blocks of a text, with two digits of base sixteen
for each byte. -/
def sha512From (start : Array UInt64) (count : Nat) (b : ByteArray) : String :=
  let s := (longBlocks b).foldl (fun s block =>
    let t := (List.range 80).foldl (sha512Round (sha512Schedule block)) s
    s.zipWith (· + ·) t) start
  String.join ((s.toList.take count).map fun x => zeroPadded 16 16 x.toNat)

/-- The sum with sixty-four bytes. -/
def sha512 : ByteArray → String :=
  sha512From sha512Start 8

/-- The sum with forty-eight bytes. -/
def sha384 : ByteArray → String :=
  sha512From sha384Start 6

/-! ### Small sums -/

/-- The sum of the bytes in sixteen bits, which are turned to the right before each byte. -/
def turnedSum (b : ByteArray) : Nat :=
  b.data.foldl (fun (n : Nat) c => (n / 2 + n % 2 * 32768 + c.toNat) % 65536) 0

/-- The sum of the bytes, folded into sixteen bits. -/
def foldedSum (b : ByteArray) : Nat :=
  let n := b.data.foldl (fun (n : Nat) c => (n + c.toNat) % 0x100000000) 0
  let r := n % 65536 + n / 65536
  r % 65536 + r / 65536

/-- The remainder of a polynomial after one more byte. -/
def crcStep (r : UInt32) (c : UInt8) : UInt32 :=
  (List.range 8).foldl (fun r _ =>
    if r &&& 0x80000000 != 0 then (r <<< 1) ^^^ 0x04c11db7 else r <<< 1) (r ^^^ (c.toUInt32 <<< 24))

/-- The bytes of a length without zeros at its end, the lowest first. `fuel` bounds their number. -/
def lengthBytes (fuel n : Nat) : List UInt8 :=
  match fuel with
  | 0 => []
  | fuel + 1 => if n = 0 then [] else (n % 256).toUInt8 :: lengthBytes fuel (n / 256)

/-- The remainder for bytes and their number. -/
def crc (b : ByteArray) : Nat :=
  (~~~((lengthBytes 16 b.size).foldl crcStep (b.data.foldl crcStep 0))).toNat

/-! ### Printable characters -/

/-- The characters for the numbers below sixty-four. -/
def codeChars : List Char :=
  "ABCDEFGHIJKLMNOPQRSTUVWXYZabcdefghijklmnopqrstuvwxyz0123456789+/".toList

/-- Bytes with printable characters, four for three. -/
def encode : List UInt8 → List Char
  | a :: b :: c :: rest =>
    let n := a.toNat * 65536 + b.toNat * 256 + c.toNat
    digit (n / 262144) :: digit (n / 4096) :: digit (n / 64) :: digit n :: encode rest
  | [a, b] =>
    let n := a.toNat * 65536 + b.toNat * 256
    [digit (n / 262144), digit (n / 4096), digit (n / 64), '=']
  | [a] =>
    let n := a.toNat * 65536
    [digit (n / 262144), digit (n / 4096), '=', '=']
  | [] => []
where
  /-- The character for the six lowest bits. -/
  digit (n : Nat) : Char := codeChars.getD (n % 64) 'A'

/-- The bytes that printable characters stand for, and whether all of them were understood. -/
def decode : List Char → List UInt8 × Bool
  | [] => ([], true)
  | a :: b :: '=' :: '=' :: rest =>
    match value? a, value? b with
    | some m, some n => ([((m * 64 + n) / 16).toUInt8] ++ (decode rest).1, (decode rest).2)
    | _, _ => ([], false)
  | a :: b :: c :: '=' :: rest =>
    match value? a, value? b, value? c with
    | some m, some n, some k =>
      let v := (m * 64 + n) * 64 + k
      ([(v / 1024).toUInt8, (v / 4).toUInt8] ++ (decode rest).1, (decode rest).2)
    | _, _, _ => ([], false)
  | a :: b :: c :: d :: rest =>
    match value? a, value? b, value? c, value? d with
    | some m, some n, some k, some l =>
      let v := ((m * 64 + n) * 64 + k) * 64 + l
      let (more, good) := decode rest
      ([(v / 65536).toUInt8, (v / 256).toUInt8, v.toUInt8] ++ more, good)
    | _, _, _, _ => ([], false)
  | _ => ([], false)
where
  /-- The number for a character. -/
  value? (c : Char) : Option Nat := (codeChars.findIdx? (· == c))

end Digest

/-! ### Programs -/

/-- A sum with the name of its file. A name with a backslash or a line feed is marked and spelled
out. -/
def sumLine (sum : String) (binary : Bool) (p : String) : String :=
  let name := (p.replace "\\" "\\\\").replace "\n" "\\n"
  (if name == p then "" else "\\") ++ sum ++ (if binary then " *" else "  ") ++ name ++ "\n"

/-- The sum in a line of a list, and the name of the file. -/
def listedSum? (size : Nat) (l : String) : Option (String × String) :=
  let sum := l.toList.takeWhile fun c => c.isDigit || ('a' ≤ c && c ≤ 'f') || ('A' ≤ c && c ≤ 'F')
  match l.toList.drop sum.length with
  | ' ' :: c :: d :: cs =>
    if sum.length == size && (c == ' ' || c == '*') then
      some ((String.ofList sum).map Char.toLower, String.ofList (d :: cs))
    else none
  | _ => none

/-- Compares the sums in a list with those of the files. -/
def checkSums (name list : String) (sum : ByteArray → String) (silent quiet : Bool)
    (ls : List String) : Doing Unit := do
  let mut wrong := 0
  let mut unread := 0
  let size := (sum .empty).length
  let good := ls.filterMap (listedSum? size)
  if good.isEmpty then
    return ← complain (name ++ ": " ++
      quotedIfNeeded [':'] (if list == "-" then "standard input" else list) ++
      ": no properly formatted checksum lines found") 1
  let say (s : String) : Doing Unit := if silent then pure () else say s
  for (expected, p) in good do
    match ← readFile p with
    | .ok d =>
      if sum d == expected then say (if quiet then "" else p ++ ": OK\n")
      else
        say (p ++ ": FAILED\n")
        wrong := wrong + 1
    | .error e =>
      warn (name ++ ": " ++ shown p ++ ": " ++ e.reason)
      say (p ++ ": FAILED open or read\n")
      unread := unread + 1
  let warning (n : Nat) (single many : String) : Doing Unit := do
    if n != 0 && silent then atLeast 1
    else if n != 0 then
      flush
      complain (name ++ ": WARNING: " ++ toString n ++ " " ++ if n == 1 then single else many) 1
  let improper := ls.length - good.length
  if improper != 0 && !silent then
    flush
    warn (name ++ ": WARNING: " ++ toString improper ++
      if improper == 1 then " line is improperly formatted" else " lines are improperly formatted")
  warning unread "listed file could not be read" "listed files could not be read"
  warning wrong "computed checksum did NOT match" "computed checksums did NOT match"

/-- Prints the sums of files. -/
def printSums (name : String) (sum : ByteArray → String) : Tool := fun args =>
  let names :=
    [("check", 'c'), ("binary", 'b'), ("text", 't'), ("quiet", '\x01'), ("status", '\x02'),
      ("warn", 'w'), ("zero", 'z'), ("tag", '\x03')]
  withArguments name "bctwz\x01\x02\x03" "" 1 (spellOut names args) fun a => do
    for p in (if a.others.isEmpty then ["-"] else a.others) do
      if ← isDirectory p then complain (name ++ ": " ++ shown p ++ ": Is a directory") 1
      else
        match ← source name p 1 with
        | none => pure ()
        | some d =>
          if a.has 'c' then checkSums name p sum (a.has '\x02') (a.has '\x01') (linesOf d.text)
          else say (sumLine (sum d) (a.has 'b') p)

/-- Prints the remainders and the sizes of files. -/
def printCounts : Tool := fun args =>
  withArguments "cksum" "" "" 1 args fun a => do
    for p in (if a.others.isEmpty then ["-"] else a.others) do
      match ← source "cksum" p 1 with
      | none => pure ()
      | some d =>
        say (toString (Digest.crc d) ++ " " ++ toString d.size ++
          (if a.others.isEmpty then "" else " " ++ p) ++ "\n")

/-- Prints small sums and the numbers of blocks of files. -/
def printSmallSums : Tool := fun args =>
  withArguments "sum" "rs" "" 1 (spellOut [("sysv", 's')] args) fun a => do
    let folded := (a.flags.getLast?) == some 's'
    for p in (if a.others.isEmpty then ["-"] else a.others) do
      match ← source "sum" p 1 with
      | none => pure ()
      | some d =>
        let name := if a.others.isEmpty then "" else " " ++ p
        if folded then
          say (toString (Digest.foldedSum d) ++ " " ++ toString ((d.size + 511) / 512) ++
            name ++ "\n")
        else
          say (zeroPadded 10 5 (Digest.turnedSum d) ++ " " ++
            padLeft 5 (toString ((d.size + 1023) / 1024)) ++ name ++ "\n")

/-- Writes bytes with printable characters, or back. -/
def recode : Tool := fun args =>
  let names := [("decode", 'd'), ("wrap", 'w'), ("ignore-garbage", 'i')]
  withArguments "base64" "di" "w" 1 (spellOut names args) fun a => do
    match a.others[1]? with
    | some extra => misuse "base64" ("extra operand " ++ cited extra) 1
    | none =>
      match ← source "base64" (a.others.headD "-") 1 with
      | none => pure ()
      | some d =>
        if a.has 'd' then
          let text := d.text.toList.filter fun c =>
            c != '\n' && (!a.has 'i' || c == '=' || Digest.codeChars.contains c)
          let (bytes, good) := Digest.decode text
          hold ⟨bytes.toArray⟩
          if !good then complain "base64: invalid input" 1
        else
          match ((a.value? 'w').map number?).getD (some 76) with
          | none => complain ("base64: invalid wrap size: " ++ cited ((a.value? 'w').getD "")) 1
          | some width =>
            let text := Digest.encode d.data.toList
            if width == 0 then say (String.ofList text)
            else if !text.isEmpty then
              let ls := foldLine width false true (String.ofList text)
              say (joinLines ls)

end AstCompare.Shell.Tool
