/-!
# Character classes as ranges

A class of characters is given by closed ranges of code points.

## Main definitions

* `inRanges`: membership in a list of ranges.
-/

namespace AstCompare.Text

/-- The code point of the character lies in one of the closed ranges. -/
def inRanges (ranges : List (Nat × Nat)) (c : Char) : Bool :=
  ranges.any fun r => r.1 ≤ c.toNat && c.toNat ≤ r.2

end AstCompare.Text
