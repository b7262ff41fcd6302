import AstCompare.Shell.Queue
import AstCompare.Shell.Signal

/-!
# What processes share

Processes share the disk, the streams that they have opened, and the pipes between them. A stream is
opened once and may then be held by several processes under several numbers, so that all of them
share one place in a file. It is closed when nobody holds it any more.

A pipe has a limited room. Who reads from an empty pipe waits until something comes or until nobody
can write to it; who writes to a full pipe waits until there is room or until nobody can read from
it.

## Main definitions

* `Target`, `Stream`: open files, devices and ends of pipes.
* `Pipe`: a pipe.
* `Common`: what processes share.
* `Common.hold`, `Common.release`: taking and giving up streams.
* `Common.reading`, `Common.writing`: reading from streams, and writing to them.
-/

namespace AstCompare.Shell

/-- What a stream leads to. -/
inductive Target where
  /-- A file, by its number. -/
  | file (id : Nat)
  | directory (l : Location)
  | device (d : Device)
  /-- A pipe, by its number. -/
  | pipe (id : Nat)
  deriving DecidableEq

/-- An open stream. -/
structure Stream where
  target : Target
  /-- It can be read, and it can be written. -/
  reads : Bool := true
  writes : Bool := true
  /-- How far it has been read or written. -/
  position : Nat := 0
  /-- What is written goes to the end. -/
  append : Bool := false
  /-- How many numbers it is known by, in all processes. -/
  holders : Nat := 1

/-- A pipe. -/
structure Pipe where
  queue : Queue := {}
  /-- How many open streams read from it and write to it. -/
  readers : Nat := 0
  writers : Nat := 0
  /-- How many have ever done so. -/
  allReaders : Nat := 0
  allWriters : Nat := 0
  /-- How many bytes may wait in it, if not any number. -/
  capacity : Option Nat := some 65536
  /-- How many bytes have been taken from it. -/
  taken : Nat := 0
  /-- The number of the entry on the disk, if it has one. -/
  entry : Option Nat := none

/-- The numbers of streams, by the numbers under which a process knows them. -/
abbrev Table := List (Nat × Nat)

/-- A process that has ended. -/
structure Ended where
  process : Nat
  ending : Ending
  deriving DecidableEq, Repr

/-- What processes share. -/
structure Common where
  disk : Disk
  streams : List (Nat × Stream) := []
  pipes : List (Nat × Pipe) := []
  /-- The number for the next stream or pipe. -/
  nextNumber : Nat := 0
  /-- The last number that was given to a process. -/
  lastProcess : Nat := 4711
  /-- The processes that run, and those that have ended and not been waited for. -/
  alive : List Nat := []
  ended : List Ended := []

namespace Common

/-! ### Streams and pipes by number -/

/-- The common state with a stream changed. -/
def modifyStream (c : Common) (i : Nat) (f : Stream → Stream) : Common :=
  { c with streams := c.streams.map fun x => if x.1 = i then (i, f x.2) else x }

/-- The common state with a pipe changed. -/
def modifyPipe (c : Common) (i : Nat) (f : Pipe → Pipe) : Common :=
  { c with pipes := c.pipes.map fun x => if x.1 = i then (i, f x.2) else x }

/-- Opens a stream, which is held once. -/
def openStream (c : Common) (s : Stream) : Nat × Common :=
  let c' := { c with nextNumber := c.nextNumber + 1, streams := (c.nextNumber, s) :: c.streams }
  (c.nextNumber,
    match s.target with
    | .pipe p => c'.modifyPipe p fun q =>
      { q with
        readers := q.readers + s.reads.toNat, writers := q.writers + s.writes.toNat
        allReaders := q.allReaders + s.reads.toNat, allWriters := q.allWriters + s.writes.toNat }
    | _ => c')

/-- Makes a pipe. -/
def addPipe (c : Common) (p : Pipe) : Nat × Common :=
  (c.nextNumber,
    { c with nextNumber := c.nextNumber + 1, pipes := (c.nextNumber, p) :: c.pipes })

/-- Holds a stream once more. -/
def hold (c : Common) (i : Nat) : Common :=
  c.modifyStream i fun s => { s with holders := s.holders + 1 }

/-- Gives up a stream once. With its last holder a stream is closed, and a pipe goes with its last
stream unless it is a place to which everything goes. -/
def release (c : Common) (i : Nat) : Common :=
  match c.streams.lookup i with
  | none => c
  | some s =>
    if 1 < s.holders then c.modifyStream i fun s => { s with holders := s.holders - 1 }
    else
      let c := { c with streams := c.streams.filter fun x => x.1 != i }
      match s.target with
      | .pipe p =>
        let c := c.modifyPipe p fun q =>
          { q with readers := q.readers - s.reads.toNat, writers := q.writers - s.writes.toNat }
        { c with pipes := c.pipes.filter fun x =>
          x.1 != p || x.2.readers != 0 || x.2.writers != 0 || x.2.capacity.isNone }
      | _ => c

/-- Holds all streams of a table once more. -/
def holdAll (c : Common) (t : Table) : Common :=
  t.foldl (fun c x => c.hold x.2) c

/-- Gives up all streams of a table once. -/
def releaseAll (c : Common) (t : Table) : Common :=
  t.foldl (fun c x => c.release x.2) c

/-- Forgets files that have neither a name nor an open stream. -/
def tidy (c : Common) : Common :=
  if c.disk.nameless.isEmpty then c
  else
    let isOpen (f : NamelessFile) : Bool := c.streams.any fun x => decide (x.2.target = .file f.id)
    { c with disk := { c.disk with nameless := c.disk.nameless.filter isOpen } }

/-! ### Reading and writing -/

/-- What can be read from a stream at present. -/
structure Source where
  data : Data := .empty
  /-- Nothing more will come. -/
  complete : Bool := true
  /-- What was read too far can be given back. -/
  seekable : Bool := false

/-- What can be read from a stream at present. -/
def reading (c : Common) (s : Stream) : Source :=
  match s.target with
  | .file id =>
    match c.disk.file? id with
    | some (content, _) => { data := Data.drop s.position content.toBytes, seekable := true }
    | none => { seekable := true }
  | .directory _ => {}
  | .device d => { data := Disk.deviceBytes d }
  | .pipe p =>
    match c.pipes.lookup p with
    | some q => { data := q.queue.bytes, complete := q.writers = 0 }
    | none => {}

/-- Takes so much of what can be read from a stream. -/
def takeFrom (c : Common) (i : Nat) (s : Stream) (n : Nat) : Common :=
  match s.target with
  | .file _ => c.modifyStream i fun s => { s with position := s.position + n }
  | .pipe p =>
    c.modifyPipe p fun q =>
      let (d, queue) := q.queue.take n
      { q with queue, taken := q.taken + d.size }
  | .directory _ | .device _ => c

/-- What has become of data that was to be written. -/
inductive Written where
  | done
  /-- So much has been written, and there is no room for the rest in a pipe at present. -/
  | wait (pipe : Nat) (count : Nat)
  /-- Nobody reads it. -/
  | broken
  | noSpace
  /-- The stream cannot be written. -/
  | refused
  deriving DecidableEq

/-- Writes to a stream as much as there is room for. -/
def writing (c : Common) (i : Nat) (s : Stream) (d : Data) : Common × Written :=
  if !s.writes then (c, if d.isEmpty then .done else .refused)
  else
    match s.target with
    | .file id =>
      match c.disk.file? id with
      | none => (c, .done)
      | some (content, a) =>
        let old := content.toBytes
        let position := if s.append then old.size else s.position
        let disk :=
          c.disk.changeFile id (.bytes (writeAt old position d)) { a with modified := c.disk.now }
        ({ c with disk }.modifyStream i fun s => { s with position := position + d.size }, .done)
    | .directory _ => (c, .refused)
    | .device .full => (c, if d.isEmpty then .done else .noSpace)
    | .device _ => (c, .done)
    | .pipe p =>
      match c.pipes.lookup p with
      | none => (c, if d.isEmpty then .done else .broken)
      | some q =>
        let room := match q.capacity with
          | some n => n - q.queue.size
          | none => d.size
        if d.isEmpty then (c, .done)
        else if q.readers = 0 && q.capacity.isSome then (c, .broken)
        -- What fits into one block is written as a whole.
        else if room < d.size && d.size ≤ 4096 then (c, .wait p 0)
        else
          let part := Data.take room d
          (if part.isEmpty then c
            else c.modifyPipe p fun q => { q with queue := q.queue.push part },
            if part.size = d.size then .done else .wait p part.size)

end Common

end AstCompare.Shell
