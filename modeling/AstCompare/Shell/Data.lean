import AstCompare.Disk.Files
import AstCompare.Shell.Octets

/-!
# What flows between programs

Programs read and write bytes. Texts within them have one character for each byte.

## Main definitions

* `Data.text`, `Data.ofText`: bytes as text.
* `Data.drop`, `Data.take`: parts of data.
* `lineEnd`: where a line ends.
* `writeAt`: the bytes of a file after others have been written into it.
-/

namespace AstCompare.Shell

/-- Bytes one after the other. -/
abbrev Data := ByteArray

namespace Data

/-- The bytes as characters. -/
def text (d : Data) : String :=
  unpack d

/-- The bytes that characters stand for. -/
def ofText (s : String) : Data :=
  pack s

/-- The data without its beginning. -/
def drop (n : Nat) (d : Data) : Data :=
  if n = 0 then d else d.extract n d.size

/-- The beginning of the data. -/
def take (n : Nat) (d : Data) : Data :=
  if d.size ≤ n then d else d.extract 0 n

/-- Pieces as one. -/
def join (ds : List Data) : Data :=
  match ds with
  | [d] => d
  | ds => ds.foldl (· ++ ·) .empty

/-- So many zeros. -/
def zeros (n : Nat) : Data :=
  ⟨Array.replicate n 0⟩

end Data

/-- The bytes of a file after others have been written from a position on. A gap is filled with
zeros. -/
def writeAt (b : Data) (position : Nat) (d : Data) : Data :=
  if position = b.size then b ++ d
  else b.extract 0 position ++ Data.zeros (position - b.size) ++ d ++
    Data.drop (position + d.size) b

/-- The place behind the line that begins at a place. With `joined` a backslash takes the byte after
it into the line. -/
def lineEnd (joined : Bool) (b : ByteArray) (i : Nat) : Nat :=
  if h : i < b.size then
    if b.get i h = 10 then i + 1
    else if joined && b.get i h = 92 then lineEnd joined b (i + 2)
    else lineEnd joined b (i + 1)
  else b.size
termination_by b.size - i

/-- The lines of a text. A line feed at the very end starts no further line. -/
def linesOf (s : String) : List String :=
  if s.isEmpty then []
  else
    match (s.splitOn "\n").reverse with
    | "" :: rest => rest.reverse
    | ls => ls.reverse

/-- The lines, each with a line feed. -/
def joinLines (ls : List String) : String :=
  String.join (ls.map (· ++ "\n"))

end AstCompare.Shell
