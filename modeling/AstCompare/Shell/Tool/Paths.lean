import AstCompare.Shell.Tool.Basic

/-!
# Parts of paths

Programs take paths apart and put them together without looking at the disk.

## Main definitions

* `lastPart`, `parentPart`, `within`: a path and its parts.
* `pathOf`: a location as a path.
* `basename`, `dirname`: the programs.
-/

namespace AstCompare.Shell.Tool

/-- The path without slashes at its end. -/
def withoutSlashes (p : String) : String :=
  String.ofList (p.toList.reverse.dropWhile (· == '/')).reverse

/-- The last part of a path; a path of slashes only is a slash. -/
def lastPart (p : String) : String :=
  let cs := (withoutSlashes p).toList
  if cs.isEmpty then (if p.isEmpty then "" else "/")
  else String.ofList (cs.reverse.takeWhile (· != '/')).reverse

/-- The path without its last part. -/
def parentPart (p : String) : String :=
  let cs := (withoutSlashes p).toList
  if cs.isEmpty then (if p.isEmpty then "." else "/")
  else
    let dir := cs.reverse.dropWhile (· != '/')
    if dir.isEmpty then "."
    else
      let dir := (dir.dropWhile (· == '/')).reverse
      if dir.isEmpty then "/" else String.ofList dir

/-- The path of a name within a directory. -/
def within (dir name : String) : String :=
  if dir.endsWith "/" then dir ++ name else dir ++ "/" ++ name

/-- A location as a path from the root. -/
def pathOf (l : Location) : String :=
  "/" ++ "/".intercalate (l.map octets)

/-- The path and those above it, the outermost first. -/
def pathsTo (p : String) : List String :=
  let parts := p.splitOn "/"
  ((List.range parts.length).filterMap fun n =>
    let q := "/".intercalate (parts.take (n + 1))
    if q.isEmpty || (parts[n]?).getD "" == "" then none else some q)

/-- Prints the last part of a path, without an ending if one is given. -/
def basename : Tool := fun args =>
  let names := [("suffix", 's'), ("multiple", 'a'), ("zero", 'z')]
  withArguments "basename" "az" "s" 1 (spellOut names args) fun a => do
    let cut (ending p : String) : String :=
      let name := lastPart p
      if ending.isEmpty || name == ending || !name.endsWith ending then name
      else (name.dropEnd ending.length).toString
    let many := a.has 'a' || (a.value? 's').isSome
    let print (names : List String) : Doing Unit :=
      say (String.join (names.map (· ++ if a.has 'z' then "\x00" else "\n")))
    match a.others with
    | [] => misuse "basename" "missing operand" 1
    | [p, ending] =>
      if many then print (a.others.map (cut ((a.value? 's').getD "")))
      else print [cut ending p]
    | _ :: _ :: extra :: _ =>
      if many then print (a.others.map (cut ((a.value? 's').getD "")))
      else misuse "basename" ("extra operand " ++ cited extra) 1
    | [p] => print [cut ((a.value? 's').getD "") p]

/-- Prints paths without their last parts. -/
def dirname : Tool := fun args =>
  withArguments "dirname" "z" "" 1 (spellOut [("zero", 'z')] args) fun a => do
    if a.others.isEmpty then misuse "dirname" "missing operand" 1
    else
      say (String.join (a.others.map fun p => parentPart p ++ if a.has 'z' then "\x00" else "\n"))

end AstCompare.Shell.Tool
