import Mathlib.Algebra.GroupWithZero.Nat
import Mathlib.Tactic.SplitIfs

/-!
# Two orders of texts

Texts are ordered by their code points, the first difference decides. A program that keeps its texts
as bytes orders them by their bytes instead, and the two orders could well be different: code points
are written with one to four bytes, and a longer code could start with a smaller byte. In UTF-8 they
are the same order, and this file says why.

## The code as a numeral

The code of a character is a leading byte and some trailing bytes. The trailing bytes are digits of
the code point to the base 64, and the leading byte holds what is left of it, above a mark for their
number. Of two code points that are written with equally many bytes, the smaller one is therefore
the smaller numeral (`trailing_append_lt`), and the marks are in the order of the lengths
(`leading_lt_or_eq`). The difference always lies within the code of the smaller character, so it
does not matter what follows it.

## Main definitions

* `Text.codePoints`, `Text.bytes`: what is compared in the two orders.

## Main results

* `Text.utf8EncodeChar_append_lt`: a smaller character makes a smaller text, whatever follows.
* `Text.lt_iff_codePoints_lt`, `Text.lt_iff_bytes_lt`: the order of texts is both of them.
-/

namespace AstCompare.Text

/-! ## Code points -/

/-- The code points of a text. -/
def codePoints (s : String) : List Nat :=
  s.toList.map Char.toNat

/-- Texts are ordered by their code points. -/
theorem lt_iff_codePoints_lt (s t : String) : s < t ↔ codePoints s < codePoints t := by
  have hchars : ∀ cs ds : List Char, cs < ds ↔ cs.map Char.toNat < ds.map Char.toNat := by
    intro cs
    induction cs with
    | nil =>
      intro ds
      cases ds <;> simp
    | cons c cs ih =>
      intro ds
      cases ds with
      | nil => simp
      | cons d ds =>
        have hlt : c < d ↔ c.toNat < d.toNat := Iff.rfl
        rw [List.map_cons, List.map_cons, List.cons_lt_cons_iff, List.cons_lt_cons_iff, ih, hlt,
          Char.toNat_inj]
  exact hchars s.toList t.toList

/-! ## The bytes of a character -/

/-- The leading byte of a code point, and the number of bytes that follow it. -/
def leading (v : Nat) : Nat × Nat :=
  if v ≤ 0x7f then (v, 0)
  else if v ≤ 0x7ff then (v / 64 ^ 1 + 0xc0, 1)
  else if v ≤ 0xffff then (v / 64 ^ 2 + 0xe0, 2)
  else (v / 64 ^ 3 + 0xf0, 3)

/-- So many of the last digits of a number to the base 64, each with the mark of a trailing byte. -/
def trailing : Nat → Nat → List UInt8
  | 0, _ => []
  | k + 1, v => .ofNat (v / 64 ^ k % 64 + 0x80) :: trailing k v

theorem toNat_lt (c : Char) : c.toNat < 0x110000 := by
  rcases c.valid with h | h
  · exact Nat.lt_trans h (by decide)
  · exact h.2

/-- The leading byte has room for all that the trailing bytes do not hold. -/
theorem utf8EncodeChar_eq (c : Char) :
    String.utf8EncodeChar c =
      .ofNat (leading c.toNat).1 :: trailing (leading c.toNat).2 c.toNat := by
  have hc := toNat_lt c
  simp only [String.utf8EncodeChar, Char.toNat_val, leading]
  generalize c.toNat = v at hc ⊢
  split
  · rfl
  · split
    · rw [Nat.mod_eq_of_lt (a := v / 64) (by omega)]
      simp [trailing]
    · split
      · rw [Nat.mod_eq_of_lt (a := v / 4096) (by omega)]
        simp [trailing]
      · rw [Nat.mod_eq_of_lt (a := v / 262144) (by omega)]
        simp [trailing]

theorem ofNat_lt_ofNat {m n : Nat} (h : m < n) (hn : n < 256) : UInt8.ofNat m < UInt8.ofNat n := by
  rw [UInt8.lt_iff_toNat_lt, UInt8.toNat_ofNat', UInt8.toNat_ofNat']
  omega

/-! ## The order of bytes -/

/-- Digits are compared from the first one on, like the numbers that they make. -/
theorem trailing_append_lt {k m n : Nat} (h : m % 64 ^ k < n % 64 ^ k) (x y : List UInt8) :
    trailing k m ++ x < trailing k n ++ y := by
  induction k with
  | zero => simp [Nat.mod_one] at h
  | succ k ih =>
    rw [trailing, trailing, List.cons_append, List.cons_append, List.cons_lt_cons_iff]
    rw [Nat.pow_succ, Nat.mod_mul, Nat.mod_mul] at h
    rcases Nat.lt_trichotomy (m / 64 ^ k % 64) (n / 64 ^ k % 64) with hlt | heq | hgt
    · exact .inl (ofNat_lt_ofNat (by omega) (by omega))
    · rw [heq] at h ⊢
      exact .inr ⟨rfl, ih (by omega)⟩
    · -- the first digit outweighs all that follow
      have hn : n % 64 ^ k < 64 ^ k := Nat.mod_lt _ (Nat.pow_pos (by decide))
      have hfirst := Nat.mul_le_mul_left (64 ^ k) hgt
      rw [Nat.mul_succ] at hfirst
      omega

/-- Of two code points, the smaller one has the smaller leading byte, or the leading bytes are equal
and it is smaller in its trailing bytes, of which there are equally many. -/
theorem leading_lt_or_eq {m n : Nat} (h : m < n) (hn : n < 0x110000) :
    (leading n).1 < 256 ∧
      ((leading m).1 < (leading n).1 ∨
        (leading m).1 = (leading n).1 ∧ (leading m).2 = (leading n).2 ∧
          m % 64 ^ (leading n).2 < n % 64 ^ (leading n).2) := by
  simp only [leading]
  split_ifs <;> simp only [Nat.reducePow, true_and] <;> omega

/-- **A smaller character makes a smaller text,** whatever follows it and whatever follows the other
one. -/
theorem utf8EncodeChar_append_lt {c d : Char} (h : c < d) (x y : List UInt8) :
    String.utf8EncodeChar c ++ x < String.utf8EncodeChar d ++ y := by
  have hcd : c.toNat < d.toNat := h
  rw [utf8EncodeChar_eq, utf8EncodeChar_eq, List.cons_append, List.cons_append,
    List.cons_lt_cons_iff]
  obtain ⟨hbyte, hlead | ⟨hlead, hlength, htrail⟩⟩ := leading_lt_or_eq hcd (toNat_lt d)
  · exact .inl (ofNat_lt_ofNat hlead hbyte)
  · rw [hlead, hlength]
    exact .inr ⟨rfl, trailing_append_lt htrail x y⟩

theorem flatMap_utf8EncodeChar_lt {cs ds : List Char} (h : cs < ds) :
    cs.flatMap String.utf8EncodeChar < ds.flatMap String.utf8EncodeChar := by
  induction h with
  | @nil d ds =>
    rw [List.flatMap_nil, List.flatMap_cons, utf8EncodeChar_eq, List.cons_append]
    exact List.nil_lt_cons _ _
  | @rel c cs d ds hcd => exact utf8EncodeChar_append_lt hcd _ _
  | @cons c cs ds _ ih => exact List.append_left_lt ih

/-- The bytes of a text in UTF-8. -/
def bytes (s : String) : List UInt8 :=
  s.toUTF8.data.toList

theorem bytes_eq_flatMap (s : String) : bytes s = s.toList.flatMap String.utf8EncodeChar := by
  rw [bytes, String.toUTF8_eq_toByteArray, ← String.utf8Encode_toList, List.utf8Encode,
    List.toList_data_toByteArray]

/-- Texts are ordered by their bytes. -/
theorem lt_iff_bytes_lt (s t : String) : s < t ↔ bytes s < bytes t := by
  have hlt : ∀ u v : String, u < v → bytes u < bytes v := by
    intro u v huv
    rw [bytes_eq_flatMap, bytes_eq_flatMap]
    exact flatMap_utf8EncodeChar_lt huv
  refine ⟨hlt s t, fun hbytes => ?_⟩
  rcases Std.lt_trichotomy s t with h | rfl | h
  · exact h
  · exact absurd hbytes (List.lt_irrefl _)
  · exact absurd hbytes (List.lt_asymm (hlt t s h))

end AstCompare.Text
