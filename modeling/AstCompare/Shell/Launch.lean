import AstCompare.Environment
import AstCompare.Layout.Program
import AstCompare.Shell.Schedule

/-!
# Starting programs

A program is looked for along the search path, unless its name is itself a path. A refusal on the
way counts only if the program is found nowhere else.

The text for a program goes through a pipe that holds a limited amount. A program that ends well
without having read enough leaves the writer with a broken pipe; if it ends badly, that is what
counts.

## Main definitions

* `find`: the path of a program.
* `launch`: runs a command.
-/

namespace AstCompare.Shell

/-- The error of the system as one of starting a program. -/
def launchError : ExecError → Layout.LaunchError
  | .disk .notFound => .notFound
  | .disk .notDirectory => .notDirectory
  | .disk .nameTooLong => .nameTooLong
  | .disk .nulInPath => .nulByte
  | .disk .tooManyLinks => .tooManyLevels
  | .disk _ => .refused
  | .noProgram => .noProgram
  | .tooManyLevels => .tooManyLevels

/-- The number of bytes that an argument or a variable may not reach. -/
def maxArgument : Nat := 131072

/-- The path of a program. -/
def find (e : Environment) (d : Disk) (name : String) : Except Layout.LaunchError String :=
  if name.isEmpty then .error .notFound
  else if !name.contains '/' && Disk.maxName < name.length then .error .nameTooLong
  else if name.contains '/' then
    match resolve d maxLevels name name [] with
    | .ok _ => .ok name
    | .error e => .error (launchError e)
  else
    match findProgram d none (searchPaths ((e.get? "PATH").map octets) name) with
    | .ok (path, .ok _) => .ok path
    | .ok (_, .error e) | .error e => .error (launchError e)

/-- The bound on the steps of a program. -/
def launchFuel : Nat := 4000000

/-- What a process starts with, and the numbers of the pipes for its input and its output. -/
structure Beginning where
  machine : Machine
  input : Option Nat
  outputs : List Nat

/-- The process that becomes a program: its input comes from a pipe or is empty, and what it prints
is collected. -/
def beginning (d : Disk) (input : Option String) : Beginning :=
  let m : Machine := { disk := d, name := "", clock := d.now.toNat }
  let m := { m with
    self := m.lastProcess, process := m.lastProcess, parent := m.lastProcess - 1,
    alive := [m.lastProcess] }
  let (p, c) : Option Nat × Common := match input with
    | some s =>
      let (p, c) := m.toCommon.addPipe { queue := .ofData (.ofText s), capacity := none }
      (some p, c)
    | none => (none, m.toCommon)
  let (q, c) := c.addPipe { capacity := none }
  let (r, c) := c.addPipe { capacity := none }
  let target : Target := match p with
    | some p => .pipe p
    | none => .device .null
  let m := { m with toCommon := c }.attach 0 { target, writes := false }
  let m := m.attach 1 { target := .pipe q, reads := false }
  let m := m.attach 2 { target := .pipe r, reads := false }
  { machine := m, input := p, outputs := [q, r] }

/-- The number of bytes that wait in a pipe. -/
def pipeCapacity : Nat := 65536

/-- The number of bytes of a pipe that become free together. -/
def pipeBlock : Nat := 4096

/-- The writer of a text finds nobody who reads the rest of it. -/
def isCutOff (size taken : Nat) : Bool :=
  decide (pipeCapacity + pipeBlock * (taken / pipeBlock) < size)

/-- Runs a command. -/
def launch (e : Environment) : Layout.Launcher := fun c d =>
  if (c.program :: c.arguments).any fun s => s.toList.contains '\x00' then (.error .nulByte, d)
  else
    match find e d (octets c.program) with
    | .error err => (.error err, d)
    | .ok path =>
      let env := e.bindings.map fun (k, v) => (octets k, octets v)
      let sizes :=
        c.arguments.map String.utf8ByteSize ++ env.map fun (k, v) => k.length + v.length + 1
      if sizes.any fun n => maxArgument ≤ n then (.error .tooManyArguments, d) else
      let b := beginning d c.input
      let task : Sh Ending :=
        Sh.runTask launchFuel (.program path (octets c.program) (c.arguments.map octets) env)
      let first := b.machine.self
      let s := Schedule.run (Sh.runTask launchFuel) b.outputs launchFuel {
        common := b.machine.toCommon, first, outside := b.machine.parent
        processes := [{
          id := first, parent := b.machine.parent,
          machine := Schedule.parted b.machine, wait := .turn
          resume := task }] }
      let disk := { s.common.disk with cwd := d.cwd, mask := d.mask, nameless := [], now := s.now }
      let code : Option Int := match s.ending with
        | some (.exited n, _) => some n
        | some (.killed _, _) | none => none
      let collected (p : Nat) : ByteArray :=
        ((s.common.pipes.lookup p).map fun q => q.queue.bytes).getD .empty
      let finished : Layout.Finished :=
        ⟨code, collected (b.outputs.headD 0), collected (b.outputs.getLast?.getD 0)⟩
      let taken := ((b.input.bind fun p => s.common.pipes.lookup p).map Pipe.taken).getD 0
      if finished.success && isCutOff ((c.input.map String.utf8ByteSize).getD 0) taken then
        (.error .brokenPipe, disk)
      else (.ok finished, disk)

end AstCompare.Shell
