import AstCompare.Disk.Walk

/-!
# Operations on a disk

Reading, writing, making and removing, as the operating system does it: an operation fails for one
reason and then leaves the disk as it is. Whoever makes or removes an entry needs the right to write
to the directory in which it stands.

## Main definitions

* `Disk.readText`, `Disk.write`, `Disk.remove`, `Disk.createDirAll`: the operations.
* `Disk.load`, `Disk.save`: reading and writing pictures.
* `Disk.place`, `Disk.discard`: putting entries on a disk and taking them away.
* `Disk.seen`: everything below a directory, as a reader finds it.
-/

namespace AstCompare.Disk

/-- How much of a source that never ends is there for a reader. -/
def endless : Nat := 4194304

/-- What is read from a device. -/
def deviceBytes : Device → ByteArray
  | .null | .absent => .empty
  | .zero | .full => ⟨Array.replicate endless 0⟩

/-- Entries may be made and removed in the directory in which a location lies. -/
def mayChange (d : Disk) (l : Location) : Bool :=
  ((d.get? l.dropLast).map fun e => e.attributes.allows .write).getD false

/-- The content of the file at a path. -/
def read (d : Disk) (p : String) : Except DiskError Content :=
  match d.stat p with
  | .error e => .error e
  | .ok (_, .directory _) => .error .isDirectory
  | .ok (_, .file _ c a) => if a.allows .read then .ok c else .error .refused
  | .ok (_, .device .absent) => .error .noDevice
  | .ok (_, .device v) => .ok (.bytes (deviceBytes v))
  | .ok (_, .link _) | .ok (_, .pipe _ _) => .ok .empty

/-- The text of the file at a path. -/
def readText (d : Disk) (p : String) : Except DiskError String :=
  match d.read p with
  | .error e => .error e
  | .ok c =>
    match c.text? with
    | some s => .ok s
    | none => .error .notText

/-- Puts a content into the file at a path, which is made if nothing stands there. A device stays as
it is. -/
def write (d : Disk) (p : String) (c : Content) : Except DiskError Disk :=
  match d.locate p with
  | .error e => .error e
  | .ok l =>
    match d.get? l with
    | none =>
      if endsInSlash p then .error .isDirectory
      else if !d.mayChange l then .error .refused
      else .ok (d.addFile l c (d.fresh 0o666))
    | some (.directory _) => .error .isDirectory
    | some e =>
      if endsInSlash p then .error .notDirectory
      else if !e.attributes.allows .write then .error .refused
      else
        match e with
        | .file id _ a => .ok (d.changeFile id c { a with modified := d.now })
        | .device .full => .error .noSpace
        | .device .absent => .error .noDevice
        | _ => .ok d

/-- Removes the file at a path. -/
def remove (d : Disk) (p : String) : Except DiskError Disk :=
  match d.lstat p with
  | .error e => .error e
  | .ok (_, .directory _) => .error .isDirectory
  | .ok (l, _) => if d.mayChange l then .ok (d.erase l) else .error .refused

/-- Makes an entry where nothing stands. -/
def create (d : Disk) (p : String) (e : Entry) : Except DiskError Disk :=
  match d.locateName p with
  | .error e => .error e
  | .ok l =>
    if (d.get? l).isSome then .error .present
    else if endsInSlash p && !e.isDirectory then .error .notFound
    else if !d.mayChange l then .error .refused
    else .ok (d.set l e)

/-- Makes one directory, whose parent has to be there. -/
def createDir (d : Disk) (p : String) : Except DiskError Disk :=
  d.create p (.directory (d.fresh 0o777))

/-- Makes a directory and those above it that are missing. `fuel` bounds the number of parents; the
directories made before a failure stay. -/
def createDirAllFrom (fuel : Nat) (d : Disk) (p : String) : Disk × Option DiskError :=
  if p.isEmpty then (d, none)
  else
    match d.createDir p with
    | .ok d' => (d', none)
    | .error .notFound =>
      match fuel, Path.parent? p with
      | fuel + 1, some parent =>
        match createDirAllFrom fuel d parent with
        | (d', some e) => (d', some e)
        | (d', none) =>
          match d'.createDir p with
          | .ok d'' => (d'', none)
          | .error e => if d'.isDirectory p then (d', none) else (d', some e)
      | _, _ => (d, some .notFound)
    | .error e => if d.isDirectory p then (d, none) else (d, some e)

/-- Makes a directory and those above it that are missing. The empty path means the working
directory. -/
def createDirAll (d : Disk) (p : String) : Disk × Option DiskError :=
  createDirAllFrom (Path.parts p).length d p

/-- The disk with an entry, and all that is below it, at another location. What stood there is
gone. -/
def relocate (d : Disk) (l m : Location) : Disk :=
  let d := d.erase m
  { d with
    entries :=
      d.entries.map fun (k, e) => if l.isPrefixOf k then (m ++ k.drop l.length, e) else (k, e) }

/-! ### Pictures -/

/-- The extension that marks the files of pictures. -/
def pictureExtension : String := "png"

/-- The path names the file of a picture. -/
def namesPicture (p : String) : Bool :=
  Path.extension? p == some pictureExtension

/-- The picture in the file at a path, or why there is none. The path has to say that it is one. -/
def load (d : Disk) (p : String) : Except String Picture :=
  match d.read p with
  | .error e => .error e.message
  | .ok c =>
    if !namesPicture p then .error "not named as a picture"
    else
      match c.picture? with
      | some q => .ok q
      | none => .error "not a picture"

/-- Puts a picture into the file at a path. A picture without pixels cannot be encoded, but the file
has been emptied by then. -/
def save (d : Disk) (p : String) (q : Picture) : Disk × Option String :=
  match d.write p (if q.hasPixels then .picture q else .empty) with
  | .error e => (d, some e.message)
  | .ok d' => (d', if q.hasPixels then none else some "a picture needs at least one pixel")

/-! ### Preparing and looking -/

/-- What is put on a disk. -/
inductive Item where
  | directory
  | file (c : Content) (executable : Bool)

/-- Puts something at a path, with the directories above it. -/
def place (d : Disk) (p : String) (i : Item) : Disk :=
  let (d, _) := d.createDirAll ((Path.parent? p).getD "")
  match d.locate p with
  | .error _ => d
  | .ok l =>
    match i with
    | .directory => d.set l (.directory { modified := d.now })
    | .file c x => d.addFile l c { mode := if x then 0o755 else 0o644, modified := d.now }

/-- Removes whatever stands at a path. -/
def discard (d : Disk) (p : String) : Disk :=
  match d.locateName p with
  | .ok l => d.eraseAll l
  | .error _ => d

/-- The names in a directory, in no particular order. -/
def names (d : Disk) (l : Location) : List String :=
  (d.below l).filterMap fun (m, _) =>
    match m with
    | [name] => some name
    | _ => none

/-- What a reader finds at a location below a directory. -/
inductive Sight where
  | directory
  | content (c : Content)

/-- Everything below a directory, as a reader finds it who follows links and goes down so many
levels. What cannot be read looks empty. -/
def seen (d : Disk) (fuel : Nat) (path : String) : List (List String × Sight) :=
  match fuel, d.stat path with
  | fuel + 1, .ok (l, .directory a) =>
    if !a.allows .read then []
    else
      (d.names l).flatMap fun name =>
        let inner := Path.join path name
        if d.isDirectory inner then
          ([name], .directory) :: (d.seen fuel inner).map fun (names, s) => (name :: names, s)
        else [([name], .content ((d.read inner).toOption.getD .empty))]
  | _, _ => []

end AstCompare.Disk
