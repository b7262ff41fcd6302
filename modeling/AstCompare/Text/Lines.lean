/-!
# Cutting a text into lines

A line ends at a line feed. One carriage return directly before that line feed belongs to the line
ending and is dropped; any other carriage return is an ordinary character. A text that ends in a
line feed has no further empty line after it, so the empty text has no lines at all.

## Main definitions

* `splitLines`: the lines of a list of characters.
* `lines`: the lines of a string.
* `unlines`: every line followed by a line feed.
-/

namespace AstCompare.Text

/-- The line whose characters were collected in reverse, once its line feed has been met: a carriage
return directly before the line feed is part of the ending. -/
def closeLine : List Char → List Char
  | '\r' :: cs => cs.reverse
  | cs => cs.reverse

/-- Lines of the remaining characters, where `pending` holds those of the current line, the latest
first. -/
def splitLinesFrom (pending : List Char) : List Char → List (List Char)
  | [] => if pending.isEmpty then [] else [pending.reverse]
  | '\n' :: cs => closeLine pending :: splitLinesFrom [] cs
  | c :: cs => splitLinesFrom (c :: pending) cs

/-- The lines of a text. -/
def splitLines (cs : List Char) : List (List Char) :=
  splitLinesFrom [] cs

/-- The lines of a string. -/
def lines (s : String) : List String :=
  (splitLines s.toList).map String.ofList

/-- The string in which every line of the list is followed by a line feed. -/
def unlines (ls : List String) : String :=
  String.join (ls.map (· ++ "\n"))

end AstCompare.Text
