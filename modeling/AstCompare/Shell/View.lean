import AstCompare.Shell.Stream

/-!
# What a process sees

Some paths stand for the streams of whoever uses them. A process sees the disk, and what is behind
the streams that it has.

## Main definitions

* `streamNumber?`: the stream that a path stands for.
* `Nature`: what is behind a stream.
* `View`: the disk and the streams.
-/

namespace AstCompare.Shell

/-- The number that digits spell. -/
def digits? (s : String) : Option Nat :=
  if !s.isEmpty && s.toList.all Char.isDigit then s.toNat? else none

/-- The number of the stream that a path stands for. -/
def streamNumber? (p : String) : Option Nat :=
  match p with
  | "/dev/stdin" => some 0
  | "/dev/stdout" => some 1
  | "/dev/stderr" => some 2
  | p =>
    ((p.dropPrefix? "/dev/fd/").or (p.dropPrefix? "/proc/self/fd/")).bind fun s =>
      digits? s.toString

/-- What is behind a stream. -/
inductive Nature where
  | file (id : Nat) (content : Content) (a : Attributes)
  | directory (l : Location)
  | device (d : Device)
  | pipe

/-- The disk, and what is behind the streams of a process. -/
structure View where
  disk : Disk
  streams : List (Nat × Nature) := []

/-- What is behind a stream. -/
def Common.nature? (c : Common) (i : Nat) : Option Nature :=
  (c.streams.lookup i).bind fun s =>
    match s.target with
    | .file id => (c.disk.file? id).map fun (content, a) => .file id content a
    | .directory l => some (.directory l)
    | .device d => some (.device d)
    | .pipe _ => some .pipe

/-- What a process with some streams sees. -/
def Common.view (c : Common) (t : Table) : View :=
  ⟨c.disk, t.filterMap fun (fd, i) => (c.nature? i).map (fd, ·)⟩

namespace View

/-- The entry that a path leads to. What is behind a stream counts as an entry without a
location. -/
def stat (v : View) (p : String) : Except DiskError (Location × Entry) :=
  match streamNumber? p with
  | some n =>
    match v.streams.lookup n with
    | none => .error .notFound
    | some (.file id c a) => .ok ([], .file id c a)
    | some (.directory l) => .ok (l, (v.disk.get? l).getD (.directory {}))
    | some (.device d) => .ok ([], .device d)
    | some .pipe => .ok ([], .pipe 0 { mode := 0o600 })
  | none => v.disk.stat (unoctets p)

/-- The entry that a path names. -/
def lstat (v : View) (p : String) : Except DiskError (Location × Entry) :=
  match streamNumber? p with
  | some _ => .ok ([], .link (.path p))
  | none => v.disk.lstat (unoctets p)

end View

end AstCompare.Shell
