import AstCompare.Disk.Basic

/-!
# Paths on a disk

Which location a path means depends on the disk: every part of a path but the last has to lead into
a directory that one may go through, and a link is replaced by the path that it stands for. The last
part may name what is not there, so that it can be made. How many links are followed is limited,
because links may lead to each other.

## Main definitions

* `Disk.step`: one part of a path.
* `Disk.locate`: the location that a path means.
* `Disk.locateName`: the location that a path names, where a link at its end is not followed.
* `Disk.stat`, `Disk.lstat`: what stands there.
-/

namespace AstCompare.Disk

/-- The greatest number of bytes of a name. -/
def maxName : Nat := 255

/-- The greatest number of bytes of a path. -/
def maxPath : Nat := 4095

/-- The greatest number of links that are followed for one path. -/
def maxLinks : Nat := 40

/-- Goes one step along a path, which is possible from a directory only. The step may lead to a
location where nothing stands. -/
def step (d : Disk) (l : Location) (piece : String) : Except DiskError Location :=
  match d.get? l with
  | none => .error .notFound
  | some (.directory a) =>
    if !a.allows .run then .error .refused
    else if piece == "" || piece == "." then .ok l
    else if piece == ".." then .ok l.dropLast
    else if maxName < piece.utf8ByteSize then .error .nameTooLong
    else .ok (l ++ [piece])
  | some _ => .error .notDirectory

/-- Goes along the pieces of a path. At a link it goes on as `onLink` says from a location and the
pieces that are left; a link at the very end is followed only if `whole` is set. -/
def walkWith (d : Disk) (whole : Bool)
    (onLink : Location → List String → Except DiskError Location) :
    Location → List String → Except DiskError Location
  | l, [] => .ok l
  | l, piece :: rest =>
    match d.step l piece with
    | .error e => .error e
    | .ok l' =>
      match d.get? l' with
      | some (.link target) =>
        if rest.isEmpty && !whole then .ok l'
        else
          match target with
          | .path p => onLink (if Path.isAbsolute p then [] else l) (Path.pieces p ++ rest)
          | .workingDirectory => onLink d.cwd rest
      | _ => walkWith d whole onLink l' rest

/-- Goes along the pieces of a path and follows so many links. -/
def walk (d : Disk) (whole : Bool) : Nat → Location → List String → Except DiskError Location
  | 0 => walkWith d whole fun _ _ => .error .tooManyLinks
  | n + 1 => walkWith d whole (walk d whole n)

/-- The location that a path leads to, where slashes at its end are left aside. -/
def locateWith (d : Disk) (whole : Bool) (p : String) : Except DiskError Location :=
  if p.toList.contains '\x00' then .error .nulInPath
  else if p.isEmpty then .error .notFound
  else if maxPath < p.utf8ByteSize then .error .nameTooLong
  else
    let pieces := ((Path.pieces p).reverse.dropWhile (· == "")).reverse
    d.walk whole maxLinks (if Path.isAbsolute p then [] else d.cwd) pieces

/-- The location that a path means. -/
def locate (d : Disk) (p : String) : Except DiskError Location :=
  d.locateWith true p

/-- The path insists on a directory. -/
def endsInSlash (p : String) : Bool :=
  p.toList.getLast? == some '/'

/-- The location that a path names: a link at its end is not followed, unless the path insists on a
directory. -/
def locateName (d : Disk) (p : String) : Except DiskError Location :=
  d.locateWith (endsInSlash p) p

/-- The location and the entry that a path leads to. -/
def statAt (d : Disk) (p : String) (l : Except DiskError Location) :
    Except DiskError (Location × Entry) :=
  match l with
  | .error e => .error e
  | .ok l =>
    match d.get? l with
    | none => .error .notFound
    | some e => if endsInSlash p && !e.isDirectory then .error .notDirectory else .ok (l, e)

/-- The location and the entry that a path leads to. -/
def stat (d : Disk) (p : String) : Except DiskError (Location × Entry) :=
  d.statAt p (d.locate p)

/-- The location and the entry that a path names. -/
def lstat (d : Disk) (p : String) : Except DiskError (Location × Entry) :=
  d.statAt p (d.locateName p)

/-- The path leads to an entry. -/
def hasEntry (d : Disk) (p : String) : Bool :=
  match d.stat p with
  | .ok _ => true
  | .error _ => false

/-- The path leads to a directory. -/
def isDirectory (d : Disk) (p : String) : Bool :=
  match d.stat p with
  | .ok (_, e) => e.isDirectory
  | .error _ => false

/-- The path leads to a file. -/
def isFile (d : Disk) (p : String) : Bool :=
  match d.stat p with
  | .ok (_, e) => e.isFile
  | .error _ => false

end AstCompare.Disk
