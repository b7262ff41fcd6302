import AstCompare.Shell.Machine

/-!
# What processes do

What a process does is a computation on its state that may be stopped: by the end of the shell, by a
complaint, by a signal, or by a jump out of a loop or a function. It may also pause, because it
waits for something or wants something that only concerns other processes, and then it goes on from
a state in which others have changed what is shared.

## Main definitions

* `Task`, `Wait`: what another process is to do, and what a process waits for.
* `Outcome`, `Sh`: computations that may be stopped and may pause.
* `Sh.pause`, `Sh.fork`, `Sh.await`: pausing, starting a process, and waiting for its end.
* `Sh.write`, `Sh.readAll`, `Sh.readLine`: streams.
-/

namespace AstCompare.Shell

/-- What a process does that is started by another one. -/
inductive Task where
  /-- It runs a command as a copy of the shell. -/
  | body (c : Command) (tested : Bool)
  /-- It becomes a program. -/
  | program (path name : String) (arguments : List String) (environment : List (String × String))

/-- What a process waits for, or wants. -/
inductive Wait where
  /-- Others may go first. -/
  | turn
  | time (t : Nat)
  /-- More than `size` bytes wait in a pipe, or nobody writes to it any more. If there is something
  else to do it is done first, until `want` bytes wait. -/
  | input (pipe size want : Nat)
  /-- There is room in a pipe, or nobody reads from it any more. -/
  | room (pipe : Nat)
  /-- More than so many streams have been opened at the other end of a pipe. -/
  | partner (pipe : Nat) (readers : Bool) (count : Nat)
  /-- One of the processes has ended, or it is too late. If it is interruptible also a signal is
  waited for. -/
  | ended (processes : List Nat) (limit : Option Nat) (interruptible : Bool)
  /-- A process is to be started. -/
  | fork (child : Machine) (task : Task)
  /-- A signal is to be sent to a process, or to all that come from the present one. -/
  | signal (target number : Nat)
  | signalBelow (number : Nat)

/-- What has become of a computation. -/
inductive Outcome (α : Type) where
  | done (a : α) (m : Machine)
  | stopped (s : Stop) (m : Machine)
  | paused (why : Wait) (m : Machine) (resume : Machine → Outcome α)

/-- What a process does. -/
def Sh (α : Type) : Type := Machine → Outcome α

namespace Outcome

variable {α β : Type}

/-- Goes on with the result. -/
def bind (o : Outcome α) (f : α → Machine → Outcome β) : Outcome β :=
  match o with
  | done a m => f a m
  | stopped s m => stopped s m
  | paused w m k => paused w m fun m' => (k m').bind f

/-- Goes on after a stop. -/
def rescue (o : Outcome α) (f : Stop → Machine → Outcome α) : Outcome α :=
  match o with
  | done a m => done a m
  | stopped s m => f s m
  | paused w m k => paused w m fun m' => (k m').rescue f

end Outcome

namespace Sh

variable {α β : Type}

/-- Does one thing after the other. -/
@[always_inline, inline]
protected def bind (x : Sh α) (f : α → Sh β) : Sh β := fun m =>
  match x m with
  | .done a m => f a m
  | .stopped s m => .stopped s m
  | .paused w m k => .paused w m fun m' => (k m').bind f

/-- Does something else after a stop. -/
@[always_inline, inline]
protected def tryCatch (x : Sh α) (f : Stop → Sh α) : Sh α := fun m =>
  match x m with
  | .done a m => .done a m
  | .stopped s m => f s m
  | .paused w m k => .paused w m fun m' => (k m').rescue f

instance : Monad Sh where
  pure a := fun m => .done a m
  bind := Sh.bind

instance : MonadStateOf Machine Sh where
  get := fun m => .done m m
  set m := fun _ => .done ⟨⟩ m
  modifyGet f := fun m => let (a, m) := f m; .done a m

instance {α : Type} : Inhabited (Sh α) := ⟨fun m => .stopped (.exit 255) m⟩

instance : MonadExceptOf Stop Sh where
  throw s := fun m => .stopped s m
  tryCatch := Sh.tryCatch

/-! ### Pausing -/

/-- Pauses. -/
def pause (w : Wait) : Sh Unit := fun m =>
  .paused w m fun m' => .done () m'

/-- Asks for something and gives the answer. -/
def request (w : Wait) : Sh Nat := fun m =>
  .paused w m fun m' => .done m'.reply m'

/-- Lets time pass, in millionths of seconds, and others go on if it is their turn. -/
def spend (cost : Nat) : Sh Unit := do
  let m ← get
  let clock := m.clock + cost
  set { m with clock }
  if m.horizon.any (· < clock) then pause .turn

/-- A bound on how often something is waited for. -/
def patience : Nat := 1000000

/-! ### Streams -/

/-- Why something could not be written. -/
inductive WriteProblem where
  | closed
  | noSpace
  | broken
  deriving DecidableEq, Repr

/-- The words of the operating system for the problem. -/
def WriteProblem.reason : WriteProblem → String
  | closed => "Bad file descriptor"
  | noSpace => DiskError.noSpace.reason
  | broken => "Broken pipe"

/-- Writes to a stream, and waits as long as there is no room. -/
def writeFrom (fuel fd : Nat) (d : Data) : Sh (Option WriteProblem) :=
  match fuel with
  | 0 => return none
  | fuel + 1 => do
    let m ← get
    match m.stream? fd with
    | none => return if d.isEmpty then none else some .closed
    | some (i, s) =>
      let m := m.stamped
      let (c, w) := m.toCommon.writing i s d
      let m := { m with toCommon := c }
      set (if s.target matches .pipe _ then m.roused else m)
      match w with
      | .done => return none
      | .noSpace => return some .noSpace
      | .refused => return some .closed
      | .broken =>
        match m.traps.lookup brokenPipeSignal with
        | none => throw (.killed brokenPipeSignal)
        | some action =>
          if !action.isEmpty then set (m.signaled brokenPipeSignal)
          return some .broken
      | .wait p n =>
        pause (.room p)
        writeFrom fuel fd (Data.drop n d)

/-- Writes to a stream, and waits as long as there is no room. -/
def write (fd : Nat) (d : Data) : Sh (Option WriteProblem) :=
  writeFrom patience fd d

/-- Prints text on the output, or remembers that it could not. -/
def print (s : String) : Sh Unit := do
  match ← write 1 (.ofText s) with
  | none => pure ()
  | some _ => modify fun m => { m with lost := true }

/-- Prints text on the error stream. -/
def report (s : String) : Sh Unit := do
  discard <| write 2 (.ofText s)

/-- How much of a pipe is filled before it is worth while to read from it, if there is something
else to do. -/
def worthReading : Nat := 16384

/-- Reads a stream to its end. `before` is what has been read, the latest first. -/
def readAllFrom (fuel fd : Nat) (before : List Data) : Sh Data :=
  match fuel with
  | 0 => return Data.join before.reverse
  | fuel + 1 => do
    let m ← get
    let s := m.source fd
    set (m.take fd s.data.size).roused
    if s.complete then return Data.join (s.data :: before).reverse
    match m.stream? fd with
    | some (_, { target := .pipe p, .. }) =>
      pause (.input p 0 worthReading)
      readAllFrom fuel fd (s.data :: before)
    | _ => return Data.join (s.data :: before).reverse

/-- Reads a stream to its end. -/
def readAll (fd : Nat) : Sh Data :=
  readAllFrom patience fd []

/-- Reads a line with its end, or what there is before the end of the stream. With `joined` a
backslash takes the end of a line into it. -/
def readLineFrom (fuel fd : Nat) (joined : Bool) : Sh Data :=
  match fuel with
  | 0 => return .empty
  | fuel + 1 => do
    let m ← get
    let s := m.source fd
    let n := lineEnd joined s.data 0
    let isWhole := 0 < n && s.data[n - 1]? == some 10
    if isWhole || s.complete then
      set (m.take fd n).roused
      return Data.take n s.data
    match m.stream? fd with
    | some (_, { target := .pipe p, .. }) =>
      pause (.input p s.data.size 0)
      readLineFrom fuel fd joined
    | _ => return s.data

/-- Reads a line with its end, or what there is before the end of the stream. -/
def readLine (fd : Nat) (joined : Bool) : Sh Data :=
  readLineFrom patience fd joined

/-! ### Other processes -/

/-- Starts a process as a copy of this one, which is prepared first, and gives its number. -/
def fork (prepare : Machine → Machine) (task : Task) : Sh Nat := do
  let m := (← get).withRoomForJob
  let m := { m with toCommon := m.toCommon.holdAll m.table }
  let child := prepare
    { m.withoutTraps with saved := [], jobs := [], pending := [], loops := 0, parent := m.self }
  set (m.adopt child.toCommon)
  match ← request (.fork child task) with
  | 0 =>
    report ((← get).complaint "Cannot fork")
    throw (.failed 2)
  | process => return process

/-- Takes note of processes of jobs that have ended, and tells which. -/
def noteJobs : Sh (List Ended) := do
  let m ← get
  if m.jobs.isEmpty then return []
  let own (e : Ended) : Bool := m.jobs.any fun j => j.processes.contains e.process
  let (mine, others) := m.ended.partition own
  let noted (j : Job) : Job :=
    { j with ended := j.ended ++ mine.filter fun e => j.processes.contains e.process }
  set { m with toCommon := { m.toCommon with ended := others }, jobs := m.jobs.map noted }
  return mine

/-- Says by which signal a process was ended. -/
def tellEnding (e : Ending) : Sh Unit := do
  match e with
  | .killed n =>
    match signalDescription n with
    | some d => report (d ++ "\n")
    | none => pure ()
  | .exited _ => pure ()

/-- Waits for the ends of processes and gives them. With `told` signals that ended them are told. -/
def awaitFrom (fuel : Nat) (told : Bool) (processes : List Nat) (before : List Ended) :
    Sh (List Ended) :=
  match fuel with
  | 0 => return before
  | fuel + 1 => do
    let m ← get
    let (mine, others) := m.ended.partition fun e => processes.contains e.process
    set { m with toCommon := { m.toCommon with ended := others } }
    discard noteJobs
    if told then
      for e in mine do
        tellEnding e.ending
    let left := processes.filter fun p => !mine.any fun e => e.process == p
    if left.isEmpty then return before ++ mine
    pause (.ended left none false)
    awaitFrom fuel told left (before ++ mine)

/-- Waits for the ends of processes and tells how the last of them ended. Signals that ended them
are told. -/
def awaitAll (processes : List Nat) : Sh Ending := do
  let ended ← awaitFrom patience true processes []
  let last := processes.getLast?.getD 0
  return ((ended.find? fun e => e.process == last).map Ended.ending).getD (.exited 255)

/-- Waits for the end of a process. -/
def await (process : Nat) : Sh Ending := do
  let ended ← awaitFrom patience false [process] []
  return (ended.head?.map Ended.ending).getD (.exited 255)

/-! ### Complaints and variables -/

/-- Complains on the error stream. -/
def complain (text : String) : Sh Unit := do
  report ((← get).complaint text)

/-- Complains, which ends the shell unless it is caught. -/
def fail {α : Type} (text : String) (status : Nat) : Sh α := do
  complain text
  modify fun m => { m with status }
  throw (.failed status)

/-- Sets the exit code. -/
def setStatus (status : Nat) : Sh Unit :=
  modify fun m => { m with status }

/-- Remembers that a program has been found. -/
def remember (name : String) : Sh Unit :=
  modify fun m =>
    if name.contains '/' || m.found.contains name then m else { m with found := m.found ++ [name] }

/-- Gives a variable a value, unless that is forbidden. -/
def assign (name value : String) : Sh Unit := do
  let m ← get
  match m.binding? name with
  | some v =>
    if v.fixed then fail (name ++ ": is read only") 2
    set (m.setVariable name { v with value := some value, exported := v.exported || m.has 'a' })
  | none => set (m.setVariable name { value := some value, exported := m.has 'a' })

/-- Runs something and tells by what it was stopped. -/
def attempt (x : Sh Unit) : Sh (Option Stop) :=
  tryCatch (do x; return none) fun s => return some s

/-- Runs something and puts a part of the state right afterwards, however it ends. -/
def restoring (restore : Machine → Machine) (x : Sh Unit) : Sh Unit := do
  let stop ← attempt x
  modify restore
  match stop with
  | some s => throw s
  | none => pure ()

end Sh

end AstCompare.Shell
