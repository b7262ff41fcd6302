import AstCompare.Shell.Reader
import AstCompare.Shell.View

/-!
# The state of a process

A process that is a shell holds variables, functions, aliases, options and arguments, and it knows
where its streams lead. Any other process needs only a part of this. What a process shares with
others is part of its state, too, as long as it is its turn.

## Main definitions

* `Variable`: the value of a variable, and what may be done with it.
* `Stop`: why the commands after the present one are not run.
* `Machine`: the state of a process.
* `Machine.bind`, `Machine.attach`, `Machine.saveTable`: what its streams lead to.
-/

namespace AstCompare.Shell

/-- The value of a variable, and what may be done with it. -/
structure Variable where
  value : Option String
  exported : Bool := false
  fixed : Bool := false

/-- Commands that were started and not waited for: the processes in the order in which they were
started, and how those ended of which it is known. -/
structure Job where
  processes : List Nat
  ended : List Ended := []
  /-- Its ending has been asked for. -/
  waited : Bool := false

/-- The process by which a job is known. -/
def Job.last (j : Job) : Nat :=
  j.processes.getLast?.getD 0

/-- How a job ended, if all of it has. -/
def Job.ending? (j : Job) : Option Ending :=
  if j.processes.all fun p => j.ended.any fun e => e.process == p then
    (j.ended.find? fun e => e.process == j.last).map Ended.ending
  else none

/-- Why the commands after the present one are not run. -/
inductive Stop where
  /-- The shell ends. -/
  | exit (status : Nat)
  /-- A complaint has been made that ends the shell unless it is caught. -/
  | failed (status : Nat)
  | killed (signal : Nat)
  /-- So many loops are over, or so many but one. -/
  | leave (loops : Nat)
  | next (loops : Nat)
  /-- The present function or file is over. -/
  | finished (status : Nat)
  deriving DecidableEq, Repr

/-- The state of a process. -/
structure Machine extends Common where
  /-- The streams by their numbers. -/
  table : Table := []
  /-- The streams as they were before they were redirected, the innermost first. -/
  saved : List Table := []
  bindings : List (String × Variable) := []
  /-- The variables as they were outside the present functions, the innermost first. -/
  hidden : List (List (String × Option Variable)) := []
  functions : List (String × Command) := []
  aliases : List (String × String) := []
  /-- The names of programs that have been found, in the order in which they were. -/
  found : List String := []
  documents : List (Nat × Word) := []
  nextDocument : Nat := 0
  /-- The name under which the script was called, and its arguments. -/
  name : String
  arguments : List String := []
  options : List Char := []
  /-- The number of the process, and that of the shell of which it may be a copy. -/
  self : Nat := 0
  process : Nat := 0
  parent : Nat := 1
  /-- The working directory as the shell was told, if links led there. -/
  place : Option String := none
  /-- The last command that was not waited for. -/
  background : Option Nat := none
  jobs : List Job := []
  /-- The number of the present line. -/
  line : Nat := 1
  /-- What is being run within the script: its name comes before complaints. -/
  speaker : Option String := none
  status : Nat := 0
  /-- The exit code of the last command whose output was wanted, if there was one. -/
  outputStatus : Option Nat := none
  loops : Nat := 0
  /-- The number of functions that have been called and not left, and the same for texts within each
  other. -/
  depth : Nat := 0
  nesting : Nat := 0
  /-- What is done when a signal comes, or in the end. -/
  traps : List (Nat × String) := []
  /-- The signals that have come and are not dealt with. -/
  pending : List Nat := []
  /-- The place within an argument that gives several options. -/
  optionPlace : Nat := 0
  /-- Something could not be printed. -/
  lost : Bool := false
  /-- The time, in millionths of seconds. -/
  clock : Nat := 0
  /-- The time at which somebody else has a turn, if there is anybody. -/
  horizon : Option Nat := none
  /-- There are other processes. -/
  crowded : Bool := false
  /-- The answer to the last request. -/
  reply : Nat := 0

namespace Machine

/-- The state with what is shared taken from elsewhere. The working directory and the rights of new
files belong to the process itself. -/
def adopt (m : Machine) (c : Common) : Machine :=
  { m with toCommon := { c with disk := { c.disk with cwd := m.disk.cwd, mask := m.disk.mask } } }

/-! ### Variables -/

/-- The variable of a name. -/
def binding? (m : Machine) (name : String) : Option Variable :=
  m.bindings.lookup name

/-- The value of a variable. -/
def value? (m : Machine) (name : String) : Option String :=
  (m.binding? name).bind Variable.value

/-- The machine with a variable in place of one of the same name. Programs have to be looked for
again when the search path changes. -/
def setVariable (m : Machine) (name : String) (v : Variable) : Machine :=
  let m := if name == "PATH" then { m with found := [] } else m
  if m.bindings.any fun x => x.1 == name then
    { m with bindings := m.bindings.map fun x => if x.1 == name then (name, v) else x }
  else { m with bindings := m.bindings ++ [(name, v)] }

/-- The machine without a variable. -/
def dropVariable (m : Machine) (name : String) : Machine :=
  { m with bindings := m.bindings.filter fun x => x.1 != name }

/-- An option is set. -/
def has (m : Machine) (option : Char) : Bool :=
  m.options.contains option

/-- The place of a name in a table of a size. -/
def tablePlace (size : Nat) (name : String) : Nat :=
  (name.toList.foldl (fun n c => n + c.toNat)
    (((name.toList.head?).map Char.toNat).getD 0 * 16)) % size

/-- Where a variable stands in the order in which variables are handed on. -/
def variableOrder (name : String) : Nat :=
  tablePlace 39 name

/-- The programs that have been found, in the order in which they are told. -/
def foundPrograms (m : Machine) : List String :=
  m.found.mergeSort fun a b => decide (tablePlace 31 a ≤ tablePlace 31 b)

/-- The variables that are handed on to programs. -/
def exports (m : Machine) : List (String × String) :=
  let vars := m.bindings.filterMap fun (name, v) =>
    match v.exported, v.value with
    | true, some value => some (name, value)
    | _, _ => none
  vars.mergeSort fun a b => decide (variableOrder a.1 ≤ variableOrder b.1)

/-- The characters that separate fields. -/
def separators (m : Machine) : List Char :=
  ((m.value? "IFS").getD " \t\n").toList

/-- The value of a parameter that has one text; arguments are joined. -/
def parameter? (m : Machine) (name : String) : Option String :=
  match name with
  | "#" => some (toString m.arguments.length)
  | "?" => some (toString m.status)
  | "$" => some (toString m.process)
  | "!" => m.background.map toString
  | "-" => some (String.ofList m.options)
  | "@" | "*" =>
    let between := match m.value? "IFS" with
      | none => " "
      | some s => String.ofList (s.toList.take 1)
    some (between.intercalate m.arguments)
  | _ =>
    if name.toList.all Char.isDigit then
      match name.toNat? with
      | some 0 => some m.name
      | some n => m.arguments[n - 1]?
      | none => none
    else m.value? name

/-! ### Streams -/

/-- The stream of a number. -/
def stream? (m : Machine) (fd : Nat) : Option (Nat × Stream) := do
  let i ← m.table.lookup fd
  let s ← m.streams.lookup i
  return (i, s)

/-- What the process sees. -/
def view (m : Machine) : View :=
  m.toCommon.view m.table

/-- What can be read from a stream at present. -/
def source (m : Machine) (fd : Nat) : Common.Source :=
  match m.stream? fd with
  | some (_, s) => if s.reads then m.toCommon.reading s else {}
  | none => {}

/-- Takes so much of what can be read. -/
def take (m : Machine) (fd n : Nat) : Machine :=
  match m.stream? fd with
  | some (i, s) => { m with toCommon := m.toCommon.takeFrom i s n }
  | none => m

/-- The disk knows the time. -/
def stamped (m : Machine) : Machine :=
  { m with toCommon := { m.toCommon with disk := { m.disk with now := m.clock } } }

/-- Somebody else may go on after what has been done. -/
def roused (m : Machine) : Machine :=
  if m.crowded then { m with horizon := some 0 } else m

/-- The stream number leads nowhere. -/
def unbind (m : Machine) (fd : Nat) : Machine :=
  match m.table.lookup fd with
  | none => m
  | some i =>
    { m with toCommon := m.toCommon.release i, table := m.table.filter fun x => x.1 != fd }.roused

/-- The stream number leads to an open stream, which is now held once more. -/
def bind (m : Machine) (fd index : Nat) : Machine :=
  let m := { m with toCommon := m.toCommon.hold index }.unbind fd
  { m with table := (fd, index) :: m.table }

/-- The stream number leads to a stream that was opened for it. -/
def adoptStream (m : Machine) (fd index : Nat) : Machine :=
  let m := m.unbind fd
  { m with table := (fd, index) :: m.table }

/-- Opens a stream and gives it a number. -/
def attach (m : Machine) (fd : Nat) (s : Stream) : Machine :=
  let (i, c) := m.toCommon.openStream s
  { m with toCommon := c }.adoptStream fd i

/-- Keeps the streams as they are for later. -/
def saveTable (m : Machine) : Machine :=
  { m with toCommon := m.toCommon.holdAll m.table, saved := m.table :: m.saved }

/-- Goes back to the streams that were kept. -/
def restoreTable (m : Machine) : Machine :=
  match m.saved with
  | [] => m
  | t :: saved => { m with toCommon := m.toCommon.releaseAll m.table, table := t, saved }.roused

/-- Gives up the streams that were kept. -/
def dropSaved (m : Machine) : Machine :=
  { m with toCommon := m.saved.foldl Common.releaseAll m.toCommon, saved := [] }

/-- Gives up all streams. -/
def closed (m : Machine) : Machine :=
  { m with
    toCommon := (m.saved.foldl Common.releaseAll (m.toCommon.releaseAll m.table)).tidy
    table := [], saved := [] }

/-- A pipe, with the numbers of the stream that reads from it and of the one that writes to it. -/
def addPipe (m : Machine) : Nat × Nat × Machine :=
  let (p, c) := m.toCommon.addPipe {}
  let (r, c) := c.openStream { target := .pipe p, writes := false }
  let (w, c) := c.openStream { target := .pipe p, reads := false }
  (r, w, { m with toCommon := c })

/-- A stream is no longer wanted. -/
def release (m : Machine) (i : Nat) : Machine :=
  { m with toCommon := m.toCommon.release i }.roused

/-- The stream number leads to some bytes that can be read. -/
def feed (m : Machine) (fd : Nat) (d : Data) : Machine :=
  let (p, c) := m.toCommon.addPipe { queue := .ofData d }
  { m with toCommon := c }.attach fd { target := .pipe p, writes := false }

/-! ### Signals and jobs -/

/-- There is something to be done when a signal comes, or in the end. -/
def hasTraps (m : Machine) : Bool :=
  m.traps.any fun t => !t.2.isEmpty

/-- The machine without what was to be done when signals come. Those that are ignored stay so. -/
def withoutTraps (m : Machine) : Machine :=
  { m with traps := m.traps.filter fun t => t.2.isEmpty }

/-- A signal has come that is to be dealt with. Those of one kind count once, and they are dealt
with by their numbers. -/
def signaled (m : Machine) (n : Nat) : Machine :=
  if m.pending.contains n then m
  else { m with pending := m.pending.filter (· < n) ++ n :: m.pending.filter (n < ·) }

/-- The machine without the first job whose ending has been asked for: its place is taken by the
next. -/
def withRoomForJob (m : Machine) : Machine :=
  match m.jobs.findIdx? fun j => j.waited && j.ending?.isSome with
  | some i => { m with jobs := m.jobs.eraseIdx i }
  | none => m

/-! ### Complaints -/

/-- A complaint with the name of the script and the line. -/
def complaint (m : Machine) (text : String) : String :=
  m.name ++ ": " ++ toString m.line ++ ": " ++ (m.speaker.map (· ++ ": ")).getD "" ++ text ++ "\n"

end Machine

end AstCompare.Shell
