import AstCompare.Shell.Process

/-!
# Opening files

A process opens what a path leads to and gets a stream. A pipe that has a name is opened only
together with somebody at its other end, so whoever comes first waits.

## Main definitions

* `Access`: what a stream is opened for.
* `Sh.openPath`: opens what a path leads to.
* `Sh.openFor`: opens a file for a redirected stream.
-/

namespace AstCompare.Shell

/-- What a stream is opened for. -/
structure Access where
  reads : Bool := false
  writes : Bool := false
  /-- A file is made if nothing is there, emptied if something is, or written at its end. -/
  create : Bool := false
  truncate : Bool := false
  append : Bool := false

/-- What a redirection opens a stream for. -/
def Opening.access : Opening → Access
  | .read => { reads := true }
  | .write | .clobber => { writes := true, create := true, truncate := true }
  | .append => { writes := true, create := true, append := true }
  | .readWrite => { reads := true, writes := true, create := true }

/-- The attributes grant what is wanted. -/
def Access.isGranted (a : Access) (b : Attributes) : Bool :=
  (!a.reads || b.allows .read) && (!a.writes || b.allows .write)

/-- A stream that leads to a target. -/
def Access.stream (a : Access) (target : Target) : Stream :=
  { target, reads := a.reads, writes := a.writes, append := a.append }

namespace Sh

/-- Opens a stream. -/
def openStream (s : Stream) : Sh Nat := do
  let m ← get
  let (i, c) := m.toCommon.openStream s
  set { m with toCommon := c }.roused
  return i

/-- Opens a pipe that has a name, and waits for somebody at its other end. -/
def openPipe (a : Access) (id : Nat) : Sh Nat := do
  let m ← get
  let (p, c) := match m.pipes.find? fun x => x.2.entry == some id with
    | some (p, _) => (p, m.toCommon)
    | none => m.toCommon.addPipe { entry := some id }
  set { m with toCommon := c }
  let i ← openStream (a.stream (.pipe p))
  if a.reads && a.writes then return i
  match (← get).pipes.lookup p with
  | some q =>
    if (if a.reads then q.writers else q.readers) = 0 then
      pause (.partner p a.writes (if a.reads then q.allWriters else q.allReaders))
    return i
  | none => return i

/-- Opens what stands at a path. -/
def openEntry (a : Access) (entry : Location × Entry) : Sh (Except DiskError Nat) := do
  let (l, e) := entry
  if e.isDirectory && a.writes then return .error .isDirectory
  if !a.isGranted e.attributes then return .error .refused
  match e with
  | .directory _ => return .ok (← openStream (a.stream (.directory l)))
  | .file id _ b =>
    if a.truncate then
      modify fun m =>
        let disk := m.stamped.disk
        { m with toCommon := { m.toCommon with
          disk := disk.changeFile id .empty { b with modified := disk.now } } }
    return .ok (← openStream (a.stream (.file id)))
  | .device .absent => return .error .noDevice
  | .device d => return .ok (← openStream (a.stream (.device d)))
  | .pipe id _ => return .ok (← openPipe a id)
  | .link _ => return .error .notFound

/-- Opens what a path leads to, and gives the number of the stream. A path may stand for a stream
that is open already: a file is then opened anew, and all else is shared. -/
def openPath (a : Access) (p : String) : Sh (Except DiskError Nat) := do
  let m ← get
  match streamNumber? p with
  | some n =>
    match m.stream? n with
    | none => return .error .notFound
    | some (_, { target := .file _, .. }) =>
      match m.view.stat p with
      | .ok e => openEntry a e
      | .error e => return .error e
    | some (i, _) =>
      set { m with toCommon := m.toCommon.hold i }
      return .ok i
  | none =>
    match m.disk.stat (unoctets p) with
    | .ok e => openEntry a e
    | .error .notFound =>
      if !a.create then return .error .notFound
      let m := m.stamped
      match m.disk.write (unoctets p) .empty with
      | .error e => return .error e
      | .ok disk =>
        set { m with toCommon := { m.toCommon with disk } }
        match disk.stat (unoctets p) with
        | .ok (_, .file id _ _) => return .ok (← openStream (a.stream (.file id)))
        | .ok e => openEntry a e
        | .error e => return .error e
    | .error e => return .error e

/-- Opens a file for a redirected stream, and tells whether that went well. -/
def openFor (fd : Nat) (opening : Opening) (p : String) : Sh Bool := do
  let m ← get
  let (verb, missing) := if opening = .read then ("cannot open ", "No such file")
    else ("cannot create ", "Directory nonexistent")
  let refused (e : DiskError) : Sh Bool := do
    let reason := if e = .notFound ∨ e = .notDirectory then missing else e.reason
    complain (verb ++ p ++ ": " ++ reason)
    return false
  if opening = .write && m.has 'C' && m.disk.isFile (unoctets p) then refused .present
  else
    match ← openPath opening.access p with
    | .ok i =>
      modify fun m => m.adoptStream fd i
      return true
    | .error e => refused e

end Sh

end AstCompare.Shell
