import AstCompare.Path
import AstCompare.Picture.Png.Decode
import AstCompare.Picture.Png.Encode

/-!
# The disk

A disk is a finite map from locations to entries, seen by somebody who has a working directory. A
location is the list of names that leads from the root to an entry.

A file holds bytes, a picture or a program. Pictures are kept as they are: they are encoded when
somebody wants their bytes, and bytes are decoded when somebody wants a picture. In the same way a
program is kept as its name. A file has a number of its own, and entries with the same number are
names of one file. A file that has lost its last name is kept for those who still have it open.

A link stands for a path, and a device stands where a file could stand, but keeps nothing of what is
written to it.

## Main definitions

* `DiskError`: why an operation fails, in the words of the operating system.
* `Content`, `Attributes`, `Entry`: what stands at a location.
* `Disk`: entries by location.
* `Disk.get?`, `Disk.set`, `Disk.erase`, `Disk.changeFile`: looking up and changing entries.
-/

namespace AstCompare

/-- Why an operation on the disk failed. -/
inductive DiskError where
  | notPermitted
  | notFound
  | noDevice
  | refused
  | present
  | notDirectory
  | isDirectory
  | invalid
  | noSpace
  | nameTooLong
  | notEmpty
  | tooManyLinks
  | nulInPath
  | notText
  deriving DecidableEq, Repr

namespace DiskError

/-- The words for the error. -/
def reason : DiskError → String
  | notPermitted => "Operation not permitted"
  | notFound => "No such file or directory"
  | noDevice => "No such device or address"
  | refused => "Permission denied"
  | present => "File exists"
  | notDirectory => "Not a directory"
  | isDirectory => "Is a directory"
  | invalid => "Invalid argument"
  | noSpace => "No space left on device"
  | nameTooLong => "File name too long"
  | notEmpty => "Directory not empty"
  | tooManyLinks => "Too many levels of symbolic links"
  | nulInPath => "file name contained an unexpected NUL byte"
  | notText => "stream did not contain valid UTF-8"

/-- The number of the operating system for the error. -/
def number? : DiskError → Option Nat
  | notPermitted => some 1
  | notFound => some 2
  | noDevice => some 6
  | refused => some 13
  | present => some 17
  | notDirectory => some 20
  | isDirectory => some 21
  | invalid => some 22
  | noSpace => some 28
  | nameTooLong => some 36
  | notEmpty => some 39
  | tooManyLinks => some 40
  | nulInPath | notText => none

/-- The words for the error, with its number if it has one. -/
def message (e : DiskError) : String :=
  match e.number? with
  | some n => e.reason ++ " (os error " ++ toString n ++ ")"
  | none => e.reason

end DiskError

/-! ### Contents -/

/-- Equality of bytes is decided by the core library, whatever other instances are in scope. -/
local instance (priority := high) decidableEqBytes : DecidableEq ByteArray :=
  ByteArray.instDecidableEq

/-- What a file holds. -/
inductive Content where
  | bytes (b : ByteArray)
  | picture (p : Picture)
  /-- A program of the system, by its name. -/
  | program (name : String)
  deriving DecidableEq

namespace Content

/-- The content that holds a text. -/
def ofText (s : String) : Content :=
  .bytes s.toUTF8

/-- The content of an empty file. -/
def empty : Content :=
  .bytes .empty

/-- The text of a content; a picture or a program is never one. -/
def text? : Content → Option String
  | bytes b => String.fromUTF8? b
  | picture _ | program _ => none

/-- The first bytes of a program. They are no text. -/
def programMark : ByteArray :=
  .mk #[127, 69, 76, 70, 2, 1, 1, 0, 0, 0, 0, 0, 0, 0, 0, 0, 3, 0, 62, 0, 1, 0, 0, 0, 255, 254]

/-- The bytes of a content. -/
def toBytes : Content → ByteArray
  | bytes b => b
  | picture p => Png.encode p
  | program name => programMark ++ name.toUTF8

/-- The picture that a content shows. -/
def picture? : Content → Option Picture
  | bytes b => Png.decode? b
  | picture p => some p
  | program _ => none

/-- The name of the program that a content is. -/
def program? : Content → Option String
  | bytes b =>
    if b.extract 0 programMark.size == programMark then
      String.fromUTF8? (b.extract programMark.size b.size)
    else none
  | picture _ => none
  | program name => some name

/-- The number of bytes of a content. -/
def size (c : Content) : Nat :=
  c.toBytes.size

end Content

/-! ### Entries -/

/-- What is no file but can be read and written like one. -/
inductive Device where
  /-- It is empty and takes everything. -/
  | null
  /-- It is an endless row of zeros and takes everything. -/
  | zero
  /-- It is an endless row of zeros and takes nothing. -/
  | full
  /-- Nothing is behind it. -/
  | absent
  deriving DecidableEq, Repr

/-- Something that one may do with an entry. -/
inductive Right where
  | read
  | write
  /-- Running a file, or going through a directory. -/
  | run
  deriving DecidableEq, Repr

/-- The bit for a right. -/
def Right.bit : Right → Nat
  | read => 4
  | write => 2
  | run => 1

/-- Who may do what with an entry, and when it was changed, in millionths of seconds. -/
structure Attributes where
  /-- Three bits for the owner, three for the group and three for everybody else. -/
  mode : Nat := 0o755
  /-- Whoever uses the disk is the owner. -/
  own : Bool := true
  modified : Int := 0
  deriving DecidableEq, Repr

/-- The entry grants a right to whoever uses the disk. -/
def Attributes.allows (a : Attributes) (r : Right) : Bool :=
  (if a.own then a.mode / 64 else a.mode) / r.bit % 2 == 1

/-- Where a link leads. -/
inductive LinkTarget where
  | path (p : String)
  /-- To the working directory of whoever follows it. -/
  | workingDirectory
  deriving DecidableEq, Repr

/-- What stands at a location. -/
inductive Entry where
  | directory (a : Attributes)
  | file (id : Nat) (content : Content) (a : Attributes)
  | link (target : LinkTarget)
  | device (d : Device)
  /-- A pipe that has a name. -/
  | pipe (id : Nat) (a : Attributes)
  deriving DecidableEq

namespace Entry

/-- The entry is a directory. -/
def isDirectory : Entry → Bool
  | directory _ => true
  | _ => false

/-- The entry is a file. -/
def isFile : Entry → Bool
  | file _ _ _ => true
  | _ => false

/-- The entry is a link. -/
def isLink : Entry → Bool
  | link _ => true
  | _ => false

/-- The attributes of an entry. A link and a device may be used by everybody. -/
def attributes : Entry → Attributes
  | directory a | file _ _ a | pipe _ a => a
  | link _ => { mode := 0o777 }
  | device _ => { mode := 0o666, own := false }

/-- The entry with other attributes, if it has any. -/
def withAttributes (b : Attributes) : Entry → Entry
  | directory _ => directory b
  | file id c _ => file id c b
  | pipe id _ => pipe id b
  | e => e

end Entry

/-! ### Disks -/

/-- The names from the root to an entry. -/
abbrev Location := List String

/-- A file that has no name. -/
structure NamelessFile where
  id : Nat
  content : Content
  attributes : Attributes

/-- Entries by location, and what belongs to whoever uses them. -/
structure Disk where
  entries : List (Location × Entry)
  cwd : Location
  /-- The number for the next file. -/
  nextId : Nat := 0
  /-- Files that have lost their names, the latest first. -/
  nameless : List NamelessFile := []
  /-- The rights that new entries do not get. -/
  mask : Nat := 0o022
  /-- The present time, in millionths of seconds. -/
  now : Int := 0

namespace Disk

/-- The attributes of the root. -/
def rootAttributes : Attributes :=
  { mode := 0o755, own := false }

/-- The entry at a location; the root is always there. -/
def get? (d : Disk) (l : Location) : Option Entry :=
  if l.isEmpty then some (.directory rootAttributes) else d.entries.lookup l

/-- The disk with an entry put at a location. -/
def set (d : Disk) (l : Location) (e : Entry) : Disk :=
  { d with entries := (l, e) :: d.entries.filter fun x => x.1 != l }

/-- The file of an entry as one without a name. -/
def unnamed? : Entry → Option NamelessFile
  | .file id c a => some ⟨id, c, a⟩
  | _ => none

/-- The disk without the entry at a location. -/
def erase (d : Disk) (l : Location) : Disk :=
  { d with
    entries := d.entries.filter fun x => x.1 != l
    nameless := ((d.get? l).bind unnamed?).toList ++ d.nameless }

/-- The entries below a location, as seen from there. -/
def below (d : Disk) (l : Location) : List (Location × Entry) :=
  d.entries.filterMap fun (m, e) =>
    if l.isPrefixOf m && l.length < m.length then some (m.drop l.length, e) else none

/-- The disk without the entry at a location and all entries below it. -/
def eraseAll (d : Disk) (l : Location) : Disk :=
  let gone := d.entries.filter fun x => l.isPrefixOf x.1
  { d with
    entries := d.entries.filter fun x => !l.isPrefixOf x.1
    nameless := (gone.filterMap fun x => unnamed? x.2) ++ d.nameless }

/-- The disk with the file of a number changed, under all its names. -/
def changeFile (d : Disk) (id : Nat) (c : Content) (a : Attributes) : Disk :=
  { d with
    entries := d.entries.map fun (l, e) =>
      match e with
      | .file i _ _ => (l, if i = id then .file id c a else e)
      | e => (l, e)
    nameless := d.nameless.map fun f => if f.id = id then ⟨id, c, a⟩ else f }

/-- The file of a number. -/
def file? (d : Disk) (id : Nat) : Option (Content × Attributes) :=
  (d.entries.findSome? fun x =>
    match x.2 with
    | .file i c a => if i = id then some (c, a) else none
    | _ => none) <|>
    (d.nameless.find? fun f => f.id == id).map fun f => (f.content, f.attributes)

/-- The number of names that a file has. -/
def nameCount (d : Disk) (id : Nat) : Nat :=
  (d.entries.filter fun x =>
    match x.2 with
    | .file i _ _ => i == id
    | _ => false).length

/-- The attributes of what is made now, from the rights that it would have. -/
def fresh (d : Disk) (mode : Nat) : Attributes :=
  { mode := mode &&& (0o7777 ^^^ (d.mask &&& 0o777)), modified := d.now }

/-- The disk with a new file at a location. -/
def addFile (d : Disk) (l : Location) (c : Content) (a : Attributes) : Disk :=
  { d with nextId := d.nextId + 1 }.set l (.file d.nextId c a)

end Disk

end AstCompare
