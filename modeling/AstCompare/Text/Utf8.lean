/-!
# Reading bytes as text, whatever they hold

Bytes that are not valid UTF-8 are read with the replacement character in place of every sequence
that breaks off: a lead byte with as many of its continuation bytes as are right is replaced as a
whole, any other stray byte by itself.

## Main definitions

* `decodeLossy`: the characters of a list of bytes.
* `lossyText`: the same for a byte array.
-/

namespace AstCompare.Text

/-- The character that stands for what cannot be read. -/
def replacement : Char := '�'

/-- For a lead byte: the number of bytes that follow, the bits it contributes, and the range of the
first byte that follows. Overlong forms, surrogates and numbers beyond the last code point are ruled
out by that range. -/
def leadByte (b : Nat) : Option (Nat × Nat × Nat × Nat) :=
  if b < 0x80 then some (0, b, 0x80, 0xBF)
  else if b < 0xC2 then none
  else if b < 0xE0 then some (1, b - 0xC0, 0x80, 0xBF)
  else if b = 0xE0 then some (2, 0, 0xA0, 0xBF)
  else if b = 0xED then some (2, 0xD, 0x80, 0x9F)
  else if b < 0xF0 then some (2, b - 0xE0, 0x80, 0xBF)
  else if b = 0xF0 then some (3, 0, 0x90, 0xBF)
  else if b < 0xF4 then some (3, b - 0xF0, 0x80, 0xBF)
  else if b = 0xF4 then some (3, 4, 0x80, 0x8F)
  else none

/-- Takes `n` continuation bytes, the first of them from the given range. If one is missing or
wrong the reading stops in front of it. -/
def continuation (n lo hi value : Nat) (bs : List Nat) : Option Nat × List Nat :=
  match n, bs with
  | 0, bs => (some value, bs)
  | _ + 1, [] => (none, [])
  | n + 1, b :: bs =>
    if lo ≤ b ∧ b ≤ hi then continuation n 0x80 0xBF (value * 64 + (b - 0x80)) bs
    else (none, b :: bs)

theorem length_continuation_le (n lo hi value : Nat) (bs : List Nat) :
    (continuation n lo hi value bs).2.length ≤ bs.length := by
  fun_induction continuation n lo hi value bs with
  | case1 => simp
  | case2 => simp
  | case3 _ _ _ _ _ _ _ ih => simp; omega
  | case4 => simp

/-- The characters of a list of bytes, with replacements where they are not valid. -/
def decodeLossy (bs : List Nat) : List Char :=
  match bs with
  | [] => []
  | b :: rest =>
    match leadByte b with
    | none => replacement :: decodeLossy rest
    | some (n, value, lo, hi) =>
      let r := continuation n lo hi value rest
      (r.1.elim replacement Char.ofNat) :: decodeLossy r.2
termination_by bs.length
decreasing_by
  · simp only [List.length_cons]; omega
  · have := length_continuation_le n lo hi value rest
    simp only [List.length_cons]; omega

/-- The text of a byte array, with replacements where it is not valid. -/
def lossyText (b : ByteArray) : String :=
  String.ofList (decodeLossy (b.data.toList.map UInt8.toNat))

end AstCompare.Text
