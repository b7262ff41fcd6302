/-!
# Paths

Paths are texts whose parts are separated by slashes. The operations on them below never look at the
disk.

## Main definitions

* `Path.join`: a path below a directory.
* `Path.parts`, `Path.parent?`: the parts of a path, and the path without the last of them.
* `Path.extension?`, `Path.withExtension`: the extension of the last part, and the path with another
  one.
-/

namespace AstCompare.Path

/-- The path starts at the root. -/
def isAbsolute (p : String) : Bool :=
  p.toList.head? == some '/'

/-- The second path as seen from the directory `dir`: a slash is put between them unless `dir` is
empty or ends in one, and an absolute second path stands alone. -/
def join (dir p : String) : String :=
  if isAbsolute p then p
  else if dir.isEmpty || dir.toList.getLast? == some '/' then dir ++ p
  else dir ++ "/" ++ p

/-- The pieces between slashes: `current` holds the characters of the present one, the latest
first. -/
def piecesFrom (current : List Char) : List Char → List (List Char)
  | [] => [current.reverse]
  | '/' :: cs => current.reverse :: piecesFrom [] cs
  | c :: cs => piecesFrom (c :: current) cs

/-- The pieces between slashes, empty ones included. -/
def pieces (p : String) : List String :=
  (piecesFrom [] p.toList).map String.ofList

/-- The parts of a path: empty pieces and dots that name the directory they stand in are left out,
except for a dot at the very beginning. -/
def parts (p : String) : List String :=
  match pieces p with
  | "." :: rest => "." :: rest.filter fun s => s != "" && s != "."
  | ps => ps.filter fun s => s != "" && s != "."

/-- The path without its last part; a path without parts has no parent. -/
def parent? (p : String) : Option String :=
  match (parts p).reverse with
  | [] => none
  | _ :: rest => some ((if isAbsolute p then "/" else "") ++ "/".intercalate rest.reverse)

/-- The file name before and after its last dot. A name without a dot, or with only one in front,
has no extension. -/
def splitName (name : List Char) : List Char × Option (List Char) :=
  let tail := (name.reverse.takeWhile (· != '.')).reverse
  let stem := name.take (name.length - tail.length - 1)
  if name.contains '.' && !stem.isEmpty && name != ['.', '.'] then (stem, some tail)
  else (name, none)

/-- The extension of the last part of a path. -/
def extension? (p : String) : Option String := do
  let name ← (parts p).getLast?
  let ext ← (splitName name.toList).2
  return String.ofList ext

/-- The path with the extension of its file name replaced, or added if there is none. A name that
is nothing but a dot and an extension after it leaves the directory above. -/
def withExtension (p ext : String) : String :=
  let cs := p.toList
  let name := (cs.reverse.takeWhile (· != '/')).reverse
  let dir := cs.take (cs.length - name.length)
  match (splitName name).1 with
  | ['.'] => String.ofList (dir ++ ['.', '.'])
  | stem => String.ofList (dir ++ stem ++ '.' :: ext.toList)

end AstCompare.Path
