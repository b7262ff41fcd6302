import AstCompare.Text.Ranges

/-!
# Blank characters and trimming

A character is *blank* when Unicode gives it the property `White_Space`. Everything in this library
that speaks of leading blanks, trimmed text or empty lines means this property and no other: the
twenty-five characters below, which include the no-break space and the ideographic space and do not
include the zero-width space.

Texts are trimmed as lists of characters, because that is the view in which their laws are stated;
`trimmed` and `indentation` are the two operations on `String` that the rest of the library uses.

## Main definitions

* `isBlank`: the property.
* `trim`: a text without its leading and trailing blanks.
* `indentation`: the number of leading blank characters.
-/

namespace AstCompare.Text

/-- Code points with the property `White_Space`, as closed ranges in ascending order. -/
def blankRanges : List (Nat × Nat) :=
  [(0x09, 0x0D), (0x20, 0x20), (0x85, 0x85), (0xA0, 0xA0), (0x1680, 0x1680), (0x2000, 0x200A),
    (0x2028, 0x2029), (0x202F, 0x202F), (0x205F, 0x205F), (0x3000, 0x3000)]

/-- The character has the property `White_Space`. -/
def isBlank (c : Char) : Bool :=
  inRanges blankRanges c

/-- The text without its leading blanks. -/
def trimStart (cs : List Char) : List Char :=
  cs.dropWhile isBlank

/-- The text without its trailing blanks. -/
def trimEnd (cs : List Char) : List Char :=
  (cs.reverse.dropWhile isBlank).reverse

/-- The text without its leading and trailing blanks. -/
def trim (cs : List Char) : List Char :=
  trimEnd (trimStart cs)

/-- The string without its leading and trailing blanks. -/
def trimmed (s : String) : String :=
  String.ofList (trim s.toList)

/-- The number of leading blank characters of a string. -/
def indentation (s : String) : Nat :=
  (s.toList.takeWhile isBlank).length

end AstCompare.Text
