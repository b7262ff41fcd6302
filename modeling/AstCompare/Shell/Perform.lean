import AstCompare.Shell.Faults
import AstCompare.Shell.Opening
import AstCompare.Shell.Programs

/-!
# Programs at work

A program that works alone is run on what can be read at present. If it wanted more than that, it
waits and is run again, from the beginning on, on all that has come by then; only what it does in
the end counts. A program whose output grows with its input also prints a part of it in between, so
that it finds out when nobody reads it any more.

Programs that pass on what they read do so piece by piece.

## Main definitions

* `Sh.perform`: runs a program that works alone.
* `Sh.passOn`: passes on what is read.
* `Sh.printFiles`, `Sh.tee`, `Sh.yes`: programs that pass on what they read, or print without an
  end.
-/

namespace AstCompare.Shell

/-- The words of a program that was called by another name, for instance with a path. -/
def spoken (program called : String) (d : Data) : Data :=
  if program == called || program == "rev" then d
  else
    let text := d.text
    let text := match text.dropPrefix? (program ++ ": ") with
      | some rest => called ++ ": " ++ rest.toString
      | none => text
    .ofText (text.replace ("Try '" ++ program ++ " --help'") ("Try '" ++ called ++ " --help'"))

namespace Sh

/-- How long it takes until a program has started. -/
def startingTime : Nat := 700

/-! ### Passing on -/

/-- Reads what there is from a stream, and waits if there is nothing. Nothing comes at the end. -/
def readSomeFrom (fuel fd : Nat) : Sh Data :=
  match fuel with
  | 0 => return .empty
  | fuel + 1 => do
    let m ← get
    let s := m.source fd
    let d := Data.take 131072 s.data
    if !d.isEmpty || s.complete then
      set (m.take fd d.size).roused
      return d
    match m.stream? fd with
    | some (_, { target := .pipe p, .. }) =>
      pause (.input p 0 worthReading)
      readSomeFrom fuel fd
    | _ => return .empty

/-- Reads what there is from a stream. -/
def readSome (fd : Nat) : Sh Data :=
  readSomeFrom patience fd

/-- Passes on what is read from a stream to another one, until there is nothing more or it cannot be
written. -/
def passOnFrom (fuel fd target : Nat) : Sh (Option WriteProblem) :=
  match fuel with
  | 0 => return none
  | fuel + 1 => do
    let d ← readSome fd
    if d.isEmpty then return none
    spend 20
    match ← write target d with
    | some problem => return some problem
    | none => passOnFrom fuel fd target

/-- Passes on what is read from a stream to another one. -/
def passOn (fd target : Nat) : Sh (Option WriteProblem) :=
  passOnFrom patience fd target

/-- The number of the first stream that programs open for themselves. -/
def ownStream : Nat := 100

/-- Complains about output that could not be written. -/
def reportProblem (program called : String) (problem : WriteProblem) : Sh Nat := do
  let (complaint, status) := writeFailure program problem
  report (called ++ ": " ++ complaint ++ "\n")
  return status

/-- The number of the file that the output goes to, and the place in it. -/
def outputPlace (m : Machine) : Option (Nat × Nat) :=
  match m.stream? 1 with
  | some (_, { target := .file id, position, append, .. }) =>
    (m.disk.file? id).map fun (c, _) => (id, if append then c.size else position)
  | _ => none

/-- Prints files one after the other. -/
def printFiles (called : String) (status : Nat) : List String → Sh Ending
  | [] => return .exited status
  | p :: ps => do
    let refused (reason : String) : Sh Ending := do
      report (called ++ ": " ++ Tool.shown p ++ ": " ++ reason ++ "\n")
      printFiles called 1 ps
    let m ← get
    let isOutput := match m.view.stat p, outputPlace m with
      | .ok (_, .file id _ _), some (out, position) => id == out && 0 < position
      | _, _ => false
    if isOutput && p != "-" then refused "input file is output file"
    else
      let opened : Except DiskError (Option Nat) ← if p == "-" then pure (.ok none) else do
        pure ((← openPath { reads := true } p).map some)
      match opened with
      | .error e => refused e.reason
      | .ok i =>
        match i with
        | some i => modify fun m => m.adoptStream ownStream i
        | none => pure ()
        let fd := if i.isSome then ownStream else 0
        let m ← get
        let problem := if i.isNone then m.inputProblem?.map InputProblem.reason
          else
            match m.stream? fd with
            | some (_, { target := .directory _, .. }) => some DiskError.isDirectory.reason
            | _ => none
        match problem with
        | some reason =>
          modify fun m => m.unbind ownStream
          refused reason
        | none =>
          let problem ← passOn fd 1
          modify fun m => m.unbind ownStream
          match problem with
          | some problem => return .exited (← reportProblem "cat" called problem)
          | none => printFiles called status ps

/-- Opens files for what is passed on, and gives their streams with their names, and the exit
code. -/
def openTargets (called : String) (append : Bool) (fd : Nat) :
    List String → Sh (List (Nat × String) × Nat)
  | [] => return ([], 0)
  | p :: ps => do
    match ← openPath { writes := true, create := true, truncate := !append, append } p with
    | .ok i =>
      modify fun m => m.adoptStream fd i
      let (fds, status) ← openTargets called append (fd + 1) ps
      return ((fd, Tool.shown p) :: fds, status)
    | .error e =>
      report (called ++ ": " ++ Tool.shown p ++ ": " ++ e.reason ++ "\n")
      let (fds, _) ← openTargets called append fd ps
      return (fds, 1)

/-- Writes to several streams. Those that could not be written are complained about; the others are
told. -/
def writeAll (called : String) (d : Data) : List (Nat × String) → Sh (List (Nat × String))
  | [] => return []
  | (fd, name) :: rest => do
    let problem ← write fd d
    match problem with
    | some e => report (called ++ ": " ++ name ++ ": " ++ e.reason ++ "\n")
    | none => pure ()
    let others ← writeAll called d rest
    return if problem.isSome then others else (fd, name) :: others

/-- Passes on the input to several streams, as long as there is one that can be written, and tells
which could be to the end. -/
def passOnToAll (fuel : Nat) (called : String) (targets : List (Nat × String)) :
    Sh (List (Nat × String)) :=
  match fuel with
  | 0 => return targets
  | fuel + 1 => do
    if targets.isEmpty then return []
    let d ← readSome 0
    if d.isEmpty then return targets
    spend 20
    let targets ← writeAll called d targets
    passOnToAll fuel called targets

/-- Prints the input and writes it into files. -/
def tee (called : String) (args : List String) : Sh Ending := do
  let names := [("append", 'a'), ("ignore-interrupts", 'i')]
  let a := Tool.readArguments ['a', 'i', 'p'] [] true {} none (Tool.spellOut names args)
  match a.unknown with
  | some c =>
    report (called ++ ": invalid option -- '" ++ String.singleton c ++ "'\nTry '" ++ called ++
      " --help' for more information.\n")
    return .exited 1
  | none =>
    let (files, status) ← openTargets called (a.has 'a') ownStream a.others
    let problem := (← get).inputProblem?
    match problem, problem.bind (inputFault? "tee") with
    | some problem, some fault =>
      let (first, last) := fault.complaints called problem
      report (first ++ last)
      return .exited fault.status
    | _, _ =>
      let targets := (1, "'standard output'") :: files
      let left ← passOnToAll patience called targets
      return .exited (if left.length < targets.length then 1 else status)

/-- Prints something again and again. -/
def printEndlessly (fuel : Nat) (called : String) (d : Data) : Sh Ending :=
  match fuel with
  | 0 => return .exited 0
  | fuel + 1 => do
    spend 1000
    match ← write 1 d with
    | some problem => return .exited (← reportProblem "yes" called problem)
    | none => printEndlessly fuel called d

/-- Prints a line again and again. -/
def yes (called : String) (args : List String) : Sh Ending :=
  let text := pack ((if args.isEmpty then "y" else " ".intercalate args) ++ "\n")
  printEndlessly patience called (Data.join (List.replicate (8192 / text.size + 1) text))

/-! ### Working alone -/

/-- The programs that read the files that they are told. -/
def readsFiles (program : String) : Bool :=
  ["base64", "cat", "cksum", "cmp", "comm", "cp", "cut", "dd", "diff", "egrep", "expand", "fgrep",
    "fold", "grep", "head", "md5sum", "nl", "od", "paste", "rev", "sed", "sha1sum", "sha256sum",
    "sort", "split", "tac", "tail", "unexpand", "uniq", "wc"].contains program

/-- Reads the pipes that have names and are given as arguments, each by its number. -/
def readPipes (program : String) : List String → Sh (List (Nat × Data))
  | [] => return []
  | p :: ps => do
    let path := if program == "dd" then ((p.dropPrefix? "if=").map (·.toString)).getD "" else p
    match (← get).disk.stat (unoctets path), streamNumber? path with
    | .ok (_, .pipe id _), none =>
      match ← openPath { reads := true } path with
      | .ok i =>
        modify fun m => m.adoptStream ownStream i
        let d ← readAll ownStream
        modify fun m => m.unbind ownStream
        return (id, d) :: (← readPipes program ps)
      | .error _ => readPipes program ps
    | _, _ => readPipes program ps

/-- Takes a pipe that has a name and is given as an argument as the input, if the program reads
nothing else and does not tell names. -/
def takePipe (program : String) (args : List String) : Sh (List String) := do
  let m ← get
  let isPipe (p : String) : Bool := match m.disk.stat (unoctets p), streamNumber? p with
    | .ok (_, .pipe _ _), none => true
    | _, _ => false
  let tellsNames := args.any fun s =>
    s.startsWith "-" && s.toList.any fun c => ['l', 'L', 'H', 'r'].contains c
  let isSearch := ["grep", "egrep", "fgrep"].contains program
  let reads := program == "head" || program == "tail" || isProgressive program
  match args.filter isPipe with
  | [p] =>
    if !reads ||
        isSearch && (tellsNames || 2 < (args.filter fun s => !s.startsWith "-").length) then
      return args
    match ← openPath { reads := true } p with
    | .ok i =>
      modify fun m => m.adoptStream 0 i
      return args.map fun s => if s == p then "-" else s
    | .error _ => return args
  | _ => return args

/-- What a program has done, and what is known of its input. -/
structure Labor where
  work : Work
  /-- How much of the input had been taken before it was run for the last time. -/
  held : Nat
  /-- How much of its output has been printed before. -/
  printed : Nat

/-- The size of the input from which on a program prints in between. -/
def progressSize : Nat := 131072

/-- What is printed of the output at the earliest in the end. -/
def progressMargin : Nat := 8192

/-- Everything on the output of a program so far. -/
def outputOf (w : Work) : Data :=
  Data.join ((w.printed.reverse.filter fun x => !x.1).map Prod.snd)

/-- Runs a program until what has come is enough for it. `held` is what has been taken for it, and
`tried` how much there was when it was run before. -/
def labor (fuel : Nat) (program : String) (t : Tool) (args : List String) (w : Work) (held : Data)
    (tried printed : Nat) : Sh Labor :=
  match fuel with
  | 0 => return ⟨w, held.size, printed⟩
  | fuel + 1 => do
    let m := (← get).stamped
    let s := m.source 0
    let input := if held.isEmpty then s.data else if s.data.isEmpty then held else held ++ s.data
    let isMeager :=
      !s.complete && !held.isEmpty && worthReading ≤ s.data.size && input.size < 2 * tried
    let done := if isMeager then { w with starved := true }
      else Tool.run t args { w with
        disk := m.disk, streams := m.view.streams, input, complete := s.complete
        seekable := s.seekable && held.isEmpty, output := outputPlace m }
    match done.starved && !s.complete, m.stream? 0 with
    | true, some (_, { target := .pipe p, .. }) =>
      set (m.take 0 s.data.size).roused
      let printed ←
        if isMeager || !isProgressive program || input.size < progressSize then pure printed
        else do
          let out := outputOf done
          let safe := out.size - progressMargin
          if safe ≤ printed then pure printed
          else
            match ← write 1 (out.extract printed safe) with
            | some problem =>
              discard <| reportProblem program program problem
              throw (.exit 1)
            | none => pure safe
      pause (.input p 0 worthReading)
      labor fuel program t args w input (if isMeager then tried else input.size) printed
    | _, _ => return ⟨done, held.size, printed⟩

/-- Prints what a program has printed. `printed` is how much of its output has been printed before.
After a problem nothing more is printed on the output. -/
def deliver (program called : String) (printed : Nat) (status : Nat) (failed : Bool) :
    List (Bool × Data) → Sh Nat
  | [] => return status
  | (true, d) :: rest => do
    discard <| write 2 (spoken program called d)
    deliver program called printed status failed rest
  | (false, d) :: rest => do
    if failed then deliver program called printed status failed rest
    else
      match ← write 1 (Data.drop printed d) with
      | none => deliver program called (printed - d.size) status failed rest
      | some problem =>
        let status ← reportProblem program called problem
        deliver program called printed status true rest

/-- Runs a program that works alone, under the name by which it was called. -/
def perform (program called : String) (t : Tool) (args : List String)
    (env : List (String × String)) : Sh Ending := do
  let args ← if readsFiles program then takePipe program args else pure args
  let pipes ← if readsFiles program then readPipes program args else pure []
  let m ← get
  let l ← labor patience program t args { disk := m.disk, environment := env, pipes } .empty 0 0
  let w := l.work
  modify fun m =>
    let disk := { w.disk with cwd := m.disk.cwd, mask := m.disk.mask }
    ({ m with toCommon := { m.toCommon with disk } }.take 0 (w.taken - l.held)).roused
  if w.slept != 0 then pause (.time ((← get).clock + 1000 * w.slept))
  match m.inputProblem?.filter fun _ => w.wanted with
  | none => return .exited (← deliver program called l.printed w.status false w.printed.reverse)
  | some problem =>
    match inputFault? program problem with
    | none => return .exited (← deliver program called l.printed w.status false w.printed.reverse)
    | some fault =>
      let (first, last) := fault.complaints called problem
      report first
      let status ←
        if fault.printsOthers then
          deliver program called l.printed w.status false w.printed.reverse
        else pure 0
      report last
      return .exited (max status fault.status)

/-- Runs a program that works alone, or passes on what it reads. -/
def performNamed (program called : String) (args : List String) (env : List (String × String)) :
    Sh (Option Ending) := do
  spend startingTime
  let isPlain := args.all fun s => !s.startsWith "-" || s == "-"
  match program with
  | "tee" => return some (← tee called args)
  | "yes" => return some (← yes called args)
  | "cat" =>
    if isPlain then
      let paths := if args.isEmpty then ["-"] else args
      let e ← printFiles called 0 paths
      if paths.contains "-" && (← get).inputProblem? = some .closed then
        report (called ++ ": closing standard input: " ++ InputProblem.closed.reason ++ "\n")
      return some e
    return some (← perform program called Tool.concatenate args env)
  | _ =>
    match tool? program with
    | some t => return some (← perform program called t args env)
    | none => return none

end Sh

end AstCompare.Shell
