import AstCompare.Shell.Arithmetic
import AstCompare.Shell.Builtins
import AstCompare.Shell.Executable
import AstCompare.Shell.Expansion
import AstCompare.Shell.Perform
import AstCompare.Shell.Starting

/-!
# Running commands

Words are expanded, streams are redirected, and commands are run, one function per kind of phrase. A
word may hold commands, and a command may start a shell of its own, so all of it is one recursion.
Its depth is bounded by a number: what would run for ever ends when the number is used up.

A command in parentheses, in a pipe or in the background runs in another process, which is a copy of
the shell, and so does a program. What it does to the disk and to open streams stays, all else is
forgotten. A process that has nothing else to do becomes the program that it is to run.

## Main definitions

* `Sh.fieldsOf`, `Sh.textOf`, `Sh.patternOf`: expanded words.
* `Flow`: what is known about the place of a command.
* `Sh.command`: runs a command.
* `Sh.source`: runs the commands of a text.
* `Sh.start`, `Sh.shell`: becomes a program, and a fresh shell.
* `Sh.runTask`: what a process does that was started by another one.
-/

namespace AstCompare.Shell

/-! ### Programs -/

/-- Where a shell looks for programs if it is not told. -/
def defaultPath : String := "/usr/local/sbin:/usr/local/bin:/usr/sbin:/usr/bin:/sbin:/bin"

/-- The working directory by a path that a variable tells, if it is not its plain path and leads
there. -/
def placeOf (env : List (String × String)) (d : Disk) : Option String :=
  (env.lookup "PWD").filter fun p =>
    p.startsWith "/" && p != Tool.pathOf d.cwd &&
      match d.stat (unoctets p) with
      | .ok (l, _) => l == d.cwd
      | .error _ => false

/-- The variables with which a fresh shell starts. -/
def initialBindings (env : List (String × String)) (d : Disk) (parent : Nat) :
    List (String × Variable) :=
  let given := (env.filter fun v => isName v.1).map fun (k, v) =>
    (k, ({ value := some v, exported := true } : Variable))
  let inner : List (String × Variable) := [("IFS", ⟨some " \t\n", false, false⟩),
    ("PS1", ⟨some "$ ", false, false⟩), ("PS2", ⟨some "> ", false, false⟩),
    ("PS4", ⟨some "+ ", false, false⟩), ("OPTIND", ⟨some "1", false, false⟩)]
  let given := if given.any fun v => v.1 == "PATH" then given
    else ("PATH", ⟨some defaultPath, false, false⟩) :: given
  let given := given.filter fun v => v.1 != "IFS" && v.1 != "PWD" && v.1 != "OPTIND"
  (inner.filter fun v => !given.any fun g => g.1 == v.1) ++ given ++
    [("PWD", ⟨some ((placeOf env d).getD (Tool.pathOf d.cwd)), true, false⟩),
      ("PPID", ⟨some (toString parent), false, false⟩)]

/-- What kind of command a name stands for. -/
inductive Kind where
  | keyword
  | alias (value : String)
  | function
  | special
  | builtin
  | program (path : String)
  | unknown

/-- What kind of command a name stands for. -/
def kindOf (m : Machine) (name : String) : Kind :=
  if keywords.contains name then .keyword
  else
    match m.aliases.lookup name with
    | some value => .alias value
    | none =>
      if specialBuiltins.contains name then .special
      else if m.functions.any fun f => f.1 == name then .function
      else if isBuiltin name then .builtin
      else
        match Builtin.programPath? m name with
        | some p => .program p
        | none => .unknown

/-- The description of what a name stands for; without `long` only what to call. -/
def describe (m : Machine) (long : Bool) (name : String) : Option String :=
  match kindOf m name with
  | .keyword => some (if long then name ++ " is a shell keyword" else name)
  | .alias value =>
    some (if long then name ++ " is an alias for " ++ value
      else "alias " ++ name ++ "=" ++ singleQuoted value)
  | .function => some (if long then name ++ " is a shell function" else name)
  | .special => some (if long then name ++ " is a special shell builtin" else name)
  | .builtin => some (if long then name ++ " is a shell builtin" else name)
  | .program p =>
    let kind := if m.found.contains name then " is a tracked alias for " else " is "
    some (if long then name ++ kind ++ p else p)
  | .unknown => none

/-- Describes what a name stands for. A program that is found on the way is remembered. -/
def tell (long : Bool) (name : String) : Sh Nat := do
  let m ← get
  match kindOf m name with
  | .program _ => Sh.remember name
  | _ => pure ()
  match describe m long name with
  | some s =>
    Sh.print (s ++ "\n")
    return 0
  | none =>
    if long then Sh.print (name ++ ": not found\n")
    return 127

/-- How a shell ends that has been stopped, or has come to its end. -/
def endingOf (status : Nat) : Option Stop → Ending
  | some (.killed n) => .killed n
  | some (.exit n) | some (.failed n) | some (.finished n) => .exited (n % 256)
  | some (.leave _) | some (.next _) | none => .exited (status % 256)

/-- The stop that goes with an ending. -/
def Ending.stop : Ending → Stop
  | exited n => .exit n
  | killed n => .killed n

/-- What is known about the place of a command. -/
structure Flow where
  /-- Its failure is no failure of the script. -/
  tested : Bool := false
  /-- The process has nothing else to do afterwards. -/
  last : Bool := false

/-- The place of a command that is followed by others. -/
def Flow.inner (w : Flow) : Flow :=
  { w with last := false }

/-- The place of a condition. -/
def Flow.condition : Flow := { tested := true }

/-- The greatest number of functions within each other. -/
def maxDepth : Nat := 1000

/-- The number of texts within each other for which there is no room any more. -/
def maxNesting : Nat := 8000

/-- The number that bounds the depth of reading a text. -/
def readingFuel (cs : List Char) : Nat :=
  16 * cs.length + 64

namespace Sh

/-- How long a command of the shell takes. -/
def commandTime : Nat := 20

/-- The number under which the output of a command is read. -/
def captureStream : Nat := 99

/-- The commands in a file, or why there are none. Nothing is read from a directory. -/
def scriptText (path : String) : Sh (Except String (List Char)) := do
  let m ← get
  match streamNumber? path, m.disk.stat (unoctets path) with
  | none, .ok (_, .directory _) => return .ok []
  | none, .ok (_, .file _ c a) =>
    return if a.allows .read then .ok (Data.text c.toBytes).toList
      else .error DiskError.refused.reason
  | _, _ =>
    match ← openPath { reads := true } path with
    | .ok i =>
      modify fun m => m.adoptStream ownStream i
      let d ← readAll ownStream
      modify fun m => m.unbind ownStream
      return .ok d.text.toList
    | .error .notFound | .error .notDirectory => return .error "No such file"
    | .error e => return .error e.reason

/-- Reads a block of the input, and waits for it. -/
def readBlockFrom (fuel : Nat) : Sh Data :=
  match fuel with
  | 0 => return .empty
  | fuel + 1 => do
    let m ← get
    let s := m.source 0
    let d := Data.take 8192 s.data
    match d.isEmpty && !s.complete, m.stream? 0 with
    | true, some (_, { target := .pipe p, .. }) =>
      pause (.input p 0 0)
      readBlockFrom fuel
    | _, _ =>
      set (m.take 0 d.size).roused
      return d

/-- Reads a block of the input. -/
def readBlock : Sh Data :=
  readBlockFrom patience

/-- Remembers the program that a command names, if it is named plainly. -/
def foresee (c : Command) : Sh Unit := do
  match c with
  | .simple _ _ ([.text name false] :: _) _ =>
    let name := String.ofList name
    match isName name, kindOf (← get) name with
    | true, .program _ => remember name
    | _, _ => pure ()
  | _ => pure ()

/-- Starts the commands of a pipe, each of which reads what the one before prints, and gives the
numbers of their processes. `source` is the stream from which the next one reads. -/
def startPipe (tested background : Bool) (source : Option Nat) : List Command → Sh (List Nat)
  | [] => return []
  | c :: cs => do
    let before ← get
    let (ends, m) := if cs.isEmpty then (none, before)
      else
        let (r, w, m) := before.addPipe
        (some (r, w), m)
    set m
    let prepare (m : Machine) : Machine :=
      let m := match source with
        | some r => m.bind 0 r
        | none => if background then m.attach 0 { target := .device .null, writes := false } else m
      let m := match ends with
        | some (_, w) => m.bind 1 w
        | none => m
      if background then { m with traps := (2, "") :: (3, "") :: m.traps } else m
    if source.isSome || !cs.isEmpty then foresee c
    let p ← fork prepare (.body c tested)
    modify fun m =>
      source.toList.foldl Machine.release ((ends.map Prod.snd).toList.foldl Machine.release m)
    let ps ← startPipe tested background (ends.map Prod.fst) cs
    return p :: ps

/-- Runs a command that is not waited for. -/
def inBackground (body : Command) : Sh Unit := do
  let ps ← startPipe false true none (match body with
    | .pipe cs => cs
    | c => [c])
  modify fun m =>
    { m with background := ps.getLast?, jobs := { processes := ps } :: m.jobs, status := 0 }

/-- The line that shows a command before it is run. -/
def trace (assignments : List (String × String)) (fields : List String) : Sh Unit := do
  let m ← get
  if m.has 'x' then
    let texts := (assignments.map fun (k, v) => k ++ "=" ++ v) ++ fields
    report ((m.value? "PS4").getD "" ++ " ".intercalate texts ++ "\n")

/-- Runs a text within another one. Without an end to it, there is no room left some time. -/
def nested (x : Sh Unit) : Sh Unit := do
  if maxNesting ≤ (← get).nesting then throw (.killed segmentSignal)
  modify fun m => { m with nesting := m.nesting + 1 }
  restoring (fun m => { m with nesting := m.nesting - 1 }) x

/-- What a command prints, as a value. -/
def output (body : Command) : Sh String := do
  let (r, w, m) := (← get).addPipe
  set m
  let p ← fork (fun m => m.bind 1 w) (.body body false)
  modify fun m => (m.release w).adoptStream captureStream r
  let d ← readAll captureStream
  modify fun m => m.unbind captureStream
  let e ← awaitAll [p]
  modify fun m => { m with outputStatus := some e.status }
  return capturedText d

/-- The path of the program that a program is to start, which complains if there is none. -/
def pathFor (starter called name : String) (env : List (String × String)) :
    Sh (Except Nat String) := do
  let m ← get
  let complained (e : ExecError) : Sh (Except Nat String) := do
    let told := match starter with
      | "xargs" => name
      | "env" | "find" | "nice" => Tool.cited name
      | "setsid" => "failed to execute " ++ name
      | "nohup" => "failed to run command " ++ Tool.quoted name
      | _ => "failed to run command " ++ Tool.cited name
    report (called ++ ": " ++ told ++ ": " ++ e.systemReason ++ "\n")
    return .error e.status
  let path := (env.lookup "PATH").getD "/bin:/usr/bin"
  match findProgram m.disk none (searchPaths (some path) name) with
  | .error e => complained e
  | .ok (path, .ok _) | .ok (path, .error .noProgram) => return .ok path
  | .ok (_, .error e) => complained e

/-- Runs a program for another one, and waits for its end. -/
def runFor (starter called name : String) (args : List String) (env : List (String × String)) :
    Sh Ending := do
  match ← pathFor starter called name env with
  | .error status => return .exited status
  | .ok path =>
    let p ← fork id (.program path name args env)
    await p

/-- Waits for a process until it is too late, and tells whether it has ended by then. -/
def endsInTime (process : Nat) (span : Nat) : Sh Bool := do
  let m ← get
  let isOver (m : Machine) : Bool := m.ended.any fun e => e.process == process
  if isOver m then return true
  pause (.ended [process] (some (m.clock + 1000 * span)) false)
  return isOver (← get)

/-- Runs a program within a time. -/
def runLimited (called name : String) (args : List String) (env : List (String × String))
    (l : Limit) : Sh Ending := do
  match ← pathFor "timeout" called name env with
  | .error status => return .exited status
  | .ok path =>
    let p ← fork id (.program path name args env)
    if ← endsInTime p l.span then await p
    else
      discard <| request (.signalBelow l.signal)
      let isKilled ← match l.grace with
        | some span =>
          if ← endsInTime p span then pure false
          else do
            discard <| request (.signalBelow killSignal)
            pure true
        | none => pure false
      let e ← await p
      return if isKilled || l.signal == killSignal then .killed killSignal
        else if l.keepsStatus then .exited e.status else .exited 124

mutual

/-- Expands the parts of a word. With `separable`, bare text may be cut into fields. -/
def glyphs (fuel : Nat) (separable : Bool) (ps : List Part) : Sh (List Glyph) :=
  match fuel, ps with
  | 0, _ => throw (.exit 255)
  | _, [] => return []
  | fuel + 1, p :: ps => do
    let first ← part fuel separable p
    let rest ← glyphs fuel separable ps
    return first ++ rest

/-- Expands one part of a word. -/
def part (fuel : Nat) (separable : Bool) (p : Part) : Sh (List Glyph) :=
  match fuel with
  | 0 => throw (.exit 255)
  | fuel + 1 => do
    match p with
    | .text cs quoted =>
      return (if quoted then [Glyph.quotes] else []) ++
        Glyph.ofText cs quoted (separable && !quoted)
    | .parameter name use quoted => parameter fuel name use quoted
    | .output body quoted =>
      let s ← output body
      return Glyph.ofText s.toList quoted (!quoted)
    | .sum ps quoted =>
      let gs ← glyphs fuel false ps
      let m ← get
      let source := Glyph.text m.separators gs
      match Arithmetic.run m.value? source with
      | .ok (n, changes) =>
        for (name, value) in changes.reverse do
          assign name (toString value)
        return Glyph.ofText (toString n).toList quoted (!quoted)
      | .error e => fail (e.message source) 2

/-- Expands a parameter. -/
def parameter (fuel : Nat) (name : String) (use : Use) (quoted : Bool) : Sh (List Glyph) :=
  match fuel with
  | 0 => throw (.exit 255)
  | fuel + 1 => do
    let m ← get
    let isList := name == "@" || name == "*"
    let value := m.parameter? name
    let needed : Sh String := do
      match value with
      | some v => return v
      | none =>
        if m.has 'u' && !isList then fail (name ++ ": parameter not set") 2
        return ""
    let asText (s : String) : List Glyph :=
      (if quoted then [Glyph.quotes] else []) ++ Glyph.ofText s.toList quoted (!quoted)
    let isMissing (orEmpty : Bool) : Bool :=
      if isList then m.arguments.isEmpty || (orEmpty && (value.getD "").isEmpty)
      else match value with
        | none => true
        | some v => orEmpty && v.isEmpty
    match use with
    | .plain =>
      if isList then return argumentGlyphs m name quoted
      return asText (← needed)
    | .length => return asText (toString (← needed).length)
    | .fallback orEmpty w =>
      if isMissing orEmpty then glyphs fuel (!quoted) (withHome m false w)
      else return (parameterGlyphs? m name quoted).getD []
    | .alternative orEmpty w =>
      if isMissing orEmpty then return if quoted then [Glyph.quotes] else []
      else glyphs fuel (!quoted) (withHome m false w)
    | .assign orEmpty w =>
      if isMissing orEmpty then
        if !isName name then fail (name ++ ": bad variable name") 2
        let s ← textOf fuel (withHome m true w)
        assign name s
        return asText s
      else return (parameterGlyphs? m name quoted).getD []
    | .demand orEmpty w =>
      if isMissing orEmpty then
        let s ← textOf fuel w
        let s := if !s.isEmpty then s
          else if orEmpty then "parameter not set or null" else "parameter not set"
        fail (name ++ ": " ++ s) 2
      else return (parameterGlyphs? m name quoted).getD []
    | .trimFront longest w =>
      let v ← needed
      let items ← patternOf fuel w
      return asText (String.ofList (Pattern.dropFront longest items v.toList))
    | .trimBack longest w =>
      let v ← needed
      let items ← patternOf fuel w
      return asText (String.ofList (Pattern.dropBack longest items v.toList))
    | .wrong => fail "Bad substitution" 2

/-- The fields of a word. -/
def fieldsOf (fuel : Nat) (w : Word) : Sh (List String) :=
  match fuel with
  | 0 => throw (.exit 255)
  | fuel + 1 => do
    let gs ← glyphs fuel false (withHome (← get) false w)
    let m ← get
    let fields := Glyph.fields m.separators gs
    return fields.flatMap fun f => if m.has 'f' then [sourceText f] else matchingPaths m.disk f

/-- The fields of several words. The arguments of some commands are texts if they are
assignments. -/
def allFields (fuel : Nat) (before : List String) (ws : List Word) : Sh (List String) :=
  match fuel, ws with
  | 0, _ => throw (.exit 255)
  | _, [] => return before
  | fuel + 1, w :: ws => do
    let declares := match before with
      | "command" :: name :: _ => declarationBuiltins.contains name
      | name :: _ => declarationBuiltins.contains name
      | [] => false
    match declares, Word.assignment? w with
    | true, some (name, value) =>
      let s ← textOf fuel (withHome (← get) true value)
      allFields fuel (before ++ [name ++ "=" ++ s]) ws
    | _, _ =>
      let fields ← fieldsOf fuel w
      allFields fuel (before ++ fields) ws

/-- A word as one text. -/
def textOf (fuel : Nat) (w : Word) : Sh String :=
  match fuel with
  | 0 => throw (.exit 255)
  | fuel + 1 => do
    let gs ← glyphs fuel false w
    return Glyph.text (← get).separators gs

/-- A word as a pattern. -/
def patternOf (fuel : Nat) (w : Word) : Sh (List Pattern.Item) :=
  match fuel with
  | 0 => throw (.exit 255)
  | fuel + 1 => do
    let gs ← glyphs fuel false (withHome (← get) false w)
    return Pattern.parse (Glyph.pattern (← get).separators gs)

/-- Redirects one stream, and tells whether that went well. -/
def redirect (fuel : Nat) (r : Redirect) : Sh Bool :=
  match fuel with
  | 0 => throw (.exit 255)
  | fuel + 1 => do
    match r with
    | .file fd opening w =>
      let p ← textOf fuel (withHome (← get) false w)
      openFor fd opening p
    | .copy fd w =>
      let s ← textOf fuel w
      match s.toList with
      | ['-'] =>
        modify fun m => m.unbind fd
        return true
      | [c] =>
        if !c.isDigit then fail "Syntax error: Bad fd number" 2
        let m ← get
        match m.table.lookup (c.toNat - 48) with
        | some i =>
          set (m.bind fd i)
          return true
        | none =>
          complain (s ++ ": Bad file descriptor")
          return false
      | _ => fail "Syntax error: Bad fd number" 2
    | .document fd number =>
      let w := ((← get).documents.lookup number).getD []
      let s ← textOf fuel w
      modify fun m => m.feed fd (.ofText s)
      return true

/-- Redirects streams, and tells whether that went well. -/
def redirectAll (fuel : Nat) (rs : List Redirect) : Sh Bool :=
  match fuel, rs with
  | 0, _ => throw (.exit 255)
  | _, [] => return true
  | fuel + 1, r :: rs => do
    if ← redirect fuel r then redirectAll fuel rs else return false

/-- Runs something with redirected streams. -/
def redirected (fuel : Nat) (rs : List Redirect) (body : Sh Unit) : Sh Unit :=
  match fuel with
  | 0 => throw (.exit 255)
  | fuel + 1 =>
    if rs.isEmpty then body
    else do
      modify Machine.saveTable
      restoring Machine.restoreTable do
        if ← redirectAll fuel rs then body else setStatus 2

/-- The values of assignments, which are carried out one after the other. -/
def assignAll (fuel : Nat) (as : List (String × Word)) : Sh (List (String × String)) :=
  match fuel, as with
  | 0, _ => throw (.exit 255)
  | _, [] => return []
  | fuel + 1, (name, w) :: as => do
    let s ← textOf fuel (withHome (← get) true w)
    assign name s
    let rest ← assignAll fuel as
    return (name, s) :: rest

/-- Runs the commands of a text from a place on. -/
def source (fuel : Nat) (w : Flow) (r : Reader) : Sh Unit :=
  match fuel with
  | 0 => throw (.exit 255)
  | fuel + 1 => do
    let m ← get
    let r := { r with
      aliases := m.aliases, documents := m.documents, nextDocument := m.nextDocument }
    match (Read.list (readingFuel r.rest) .line []).run r with
    | .error e =>
      set { m with line := e.line }
      fail e.message 2
    | .ok (c, r) =>
      set { m with documents := r.documents, nextDocument := r.nextDocument }
      match c with
      | .nothing => pure ()
      | c => command fuel w c
      match r.pushed with
      | some .finish => return
      | _ => source fuel w { r with documents := [] }

/-- Runs the actions for the signals that have come. -/
def actOnSignals (fuel : Nat) : Sh Unit :=
  match fuel with
  | 0 => throw (.exit 255)
  | fuel + 1 => do
    let m ← get
    match m.pending with
    | [] => return
    | n :: pending =>
      set { m with pending }
      let action := (m.traps.lookup n).getD ""
      source fuel {} { rest := action.toList }
      modify fun m' => { m' with status := m.status, line := m.line }
      actOnSignals fuel

/-- Ends a shell: what was wanted for the end is done, and the ending is told. -/
def conclude (fuel : Nat) (stop : Option Stop) : Sh Ending :=
  match fuel with
  | 0 => return .exited 255
  | fuel + 1 => do
    let m ← get
    match endingOf m.status stop, m.traps.lookup 0 with
    | .exited n, some action =>
      set { m with status := n, traps := m.traps.filter fun t => t.1 != 0, speaker := none }
      match ← attempt (source fuel {} { rest := action.toList }) with
      | some (.exit k) => return .exited k
      | some (.killed k) => return .killed k
      | some (.failed k) => return .exited k
      | _ => return .exited n
    | e, _ => return e

/-- Ends a strict shell if the last command has failed. -/
def checkStatus (tested : Bool) : Sh Unit := do
  let m ← get
  if m.has 'e' && !tested && m.status != 0 then throw (.exit m.status)

/-- Runs a command. -/
def command (fuel : Nat) (w : Flow) (c : Command) : Sh Unit :=
  match fuel with
  | 0 => throw (.exit 255)
  | fuel + 1 => do
    if (← get).has 'n' then return
    match c with
    | .nothing => pure ()
    | .simple line as ws rs =>
      modify fun m => { m with line }
      simple fuel w as ws rs
      actOnSignals fuel
      checkStatus w.tested
    | .pipe cs =>
      let ps ← startPipe w.tested false none cs
      let e ← awaitAll ps
      setStatus e.status
      actOnSignals fuel
      checkStatus w.tested
    | .negation body =>
      command fuel .condition body
      modify fun m => { m with status := if m.status = 0 then 1 else 0 }
    | .both a b =>
      command fuel .condition a
      if (← get).status = 0 then command fuel w b
    | .either a b =>
      command fuel .condition a
      if (← get).status != 0 then command fuel w b
    | .sequence cs => commands fuel w cs
    | .background line body =>
      modify fun m => { m with line }
      inBackground body
    | .subshell line body rs =>
      modify fun m => { m with line }
      if w.last && !(← get).hasTraps then
        if ← redirectAll fuel rs then command fuel w body else throw (.exit 2)
      else
        let p ← fork id (.body c w.tested)
        let e ← awaitAll [p]
        setStatus e.status
        actOnSignals fuel
        checkStatus w.tested
    | .redirected line body rs =>
      modify fun m => { m with line }
      redirected fuel rs (command fuel w.inner body)
    | .branch condition body otherwise =>
      command fuel .condition condition
      if (← get).status = 0 then command fuel w body
      else
        match otherwise with
        | some c => command fuel w c
        | none => setStatus 0
    | .loop negated condition body =>
      let loops := (← get).loops
      restoring (fun m => { m with loops }) do
        modify fun m => { m with loops := loops + 1 }
        loop fuel w.inner negated condition body 0
    | .each line name items body =>
      modify fun m => { m with line }
      let fields ← match items with
        | some ws => allFields fuel [] ws
        | none => do pure (← get).arguments
      let loops := (← get).loops
      restoring (fun m => { m with loops }) do
        modify fun m => { m with loops := loops + 1, status := 0 }
        each fuel w.inner name body fields
    | .choose line subject arms =>
      modify fun m => { m with line }
      let s ← textOf fuel (withHome (← get) false subject)
      setStatus 0
      choose fuel w s arms
    | .define _ name body =>
      modify fun m =>
        { m with status := 0, functions := (name, body) :: m.functions.filter fun f => f.1 != name }

/-- Runs commands in order. -/
def commands (fuel : Nat) (w : Flow) (cs : List Command) : Sh Unit :=
  match fuel, cs with
  | 0, _ => throw (.exit 255)
  | _, [] => return
  | fuel + 1, c :: cs => do
    command fuel (if cs.isEmpty then w else w.inner) c
    commands fuel w cs

/-- Runs the rounds of a loop. `status` is the exit code of the last one. -/
def loop (fuel : Nat) (w : Flow) (negated : Bool) (condition body : Command)
    (status : Nat) : Sh Unit :=
  match fuel with
  | 0 => throw (.exit 255)
  | fuel + 1 => do
    match ← attempt (command fuel .condition condition) with
    | none =>
      if ((← get).status == 0) == negated then setStatus status
      else
        match ← attempt (command fuel w body) with
        | none | some (.next 1) => loop fuel w negated condition body (← get).status
        | some (.leave 1) => setStatus 0
        | some (.leave (n + 2)) => throw (.leave (n + 1))
        | some (.next (n + 2)) => throw (.next (n + 1))
        | some s => throw s
    | some (.leave 1) => setStatus 0
    | some (.next 1) => loop fuel w negated condition body (← get).status
    | some (.leave (n + 2)) => throw (.leave (n + 1))
    | some (.next (n + 2)) => throw (.next (n + 1))
    | some s => throw s

/-- Runs the rounds of a loop over fields. -/
def each (fuel : Nat) (w : Flow) (name : String) (body : Command) (items : List String) : Sh Unit :=
  match fuel, items with
  | 0, _ => throw (.exit 255)
  | _, [] => return
  | fuel + 1, item :: items => do
    assign name item
    match ← attempt (command fuel w body) with
    | none | some (.next 1) => each fuel w name body items
    | some (.leave 1) => setStatus 0
    | some (.leave (n + 2)) => throw (.leave (n + 1))
    | some (.next (n + 2)) => throw (.next (n + 1))
    | some s => throw s

/-- Runs the body after the first pattern that fits. -/
def choose (fuel : Nat) (w : Flow) (subject : String)
    (arms : List (List Word × Command)) : Sh Unit :=
  match fuel, arms with
  | 0, _ => throw (.exit 255)
  | _, [] => return
  | fuel + 1, ([], _) :: arms => choose fuel w subject arms
  | fuel + 1, (p :: ps, body) :: arms => do
    let items ← patternOf fuel p
    if Pattern.fits items subject.toList then command fuel w body
    else choose fuel w subject ((ps, body) :: arms)

/-- Runs a simple command. Its words are expanded first, then streams are redirected, then
assignments are carried out. -/
def simple (fuel : Nat) (w : Flow) (as : List (String × Word)) (ws : List Word)
    (rs : List Redirect) : Sh Unit :=
  match fuel with
  | 0 => throw (.exit 255)
  | fuel + 1 => do
    modify fun m => { m with outputStatus := none }
    spend commandTime
    let fields ← allFields fuel [] ws
    match fields with
    | [] =>
      redirected fuel rs do
        let values ← assignAll fuel as
        trace values []
        modify fun m => { m with status := m.outputStatus.getD 0 }
    | name :: args =>
      let m ← get
      let isFunction := m.functions.any fun f => f.1 == name
      let special := specialBuiltins.contains name && !isFunction
      let run : Sh Unit := do
        let before ← get
        let values ← assignAll fuel as
        if !values.isEmpty then trace values fields else trace [] fields
        if special || values.isEmpty then invoke fuel w special name args
        else
          modify fun m => values.foldl (fun m (k, _) =>
            m.setVariable k { ((m.binding? k).getD ⟨none, false, false⟩) with exported := true }) m
          let stop ← attempt (invoke fuel w special name args)
          modify fun m => values.foldl (fun m (k, _) => match before.binding? k with
            | some v => m.setVariable k v
            | none => m.dropVariable k) m
          match stop with
          | some s => throw s
          | none => pure ()
      if name == "exec" && args.isEmpty then
        if ← redirectAll fuel rs then
          discard <| assignAll fuel as
          setStatus 0
        else
          setStatus 2
          throw (.failed 2)
      else if rs.isEmpty then run
      else
        modify Machine.saveTable
        restoring Machine.restoreTable do
          if ← redirectAll fuel rs then run
          else
            setStatus 2
            if special then throw (.failed 2)

/-- Runs a function, a command of the shell, or a program. -/
def invoke (fuel : Nat) (w : Flow) (special : Bool) (name : String)
    (args : List String) : Sh Unit :=
  match fuel with
  | 0 => throw (.exit 255)
  | fuel + 1 => do
    match (← get).functions.lookup name with
    | some body =>
      if special then builtin fuel w.tested special name args else call fuel w.tested body args
    | none =>
      if isBuiltin name then builtin fuel w.tested special name args
      else program fuel w name args

/-- Calls a function. -/
def call (fuel : Nat) (tested : Bool) (body : Command) (args : List String) : Sh Unit :=
  match fuel with
  | 0 => throw (.exit 255)
  | fuel + 1 => do
    if maxDepth ≤ (← get).depth then
      fail ("Maximum function recursion depth (" ++ toString maxDepth ++ ") reached") 2
    let before ← get
    let restore (m : Machine) : Machine :=
      let m := (m.hidden.headD []).foldl (fun m (name, old) => match old with
        | some v => m.setVariable name v
        | none => m.dropVariable name) m
      { m with
        arguments := before.arguments, hidden := before.hidden, loops := before.loops
        depth := before.depth }
    restoring restore do
      modify fun m =>
        { m with arguments := args, hidden := [] :: m.hidden, loops := 0, depth := m.depth + 1 }
      match ← attempt (command fuel { tested } body) with
      | some (.finished n) => setStatus n
      | some s => throw s
      | none => pure ()

/-- Runs a command of the shell. A complaint ends the shell only if the command is special. -/
def builtin (fuel : Nat) (tested special : Bool) (name : String) (args : List String) : Sh Unit :=
  match fuel with
  | 0 => throw (.exit 255)
  | fuel + 1 => do
    let speaker := (← get).speaker
    if name != "command" then modify fun m => { m with speaker := some name, lost := false }
    let stop ← attempt do
      match builtin? name with
      | some b =>
        let status ← b args
        setStatus status
      | none => runner fuel tested name args
    if name != "command" && (← get).lost then
      complain (name ++ ": I/O error")
      setStatus 1
    modify fun m => { m with speaker, lost := false }
    match stop with
    | none => pure ()
    | some (.failed n) => if special then throw (.failed n) else setStatus n
    | some s => throw s

/-- Runs a command of the shell that runs other commands. -/
def runner (fuel : Nat) (tested : Bool) (name : String) (args : List String) : Sh Unit :=
  match fuel with
  | 0 => throw (.exit 255)
  | fuel + 1 => do
    match name with
    | "eval" =>
      setStatus 0
      nested (source fuel { tested } { rest := (" ".intercalate args).toList })
    | "." =>
      let (_, args) ← Builtin.takeOptions [] args
      match args with
      | [] => setStatus 0
      | p :: _ =>
        let m ← get
        let found := if p.contains '/' then some p
          else (searchPaths (m.value? "PATH") p).find? fun q => m.disk.isFile (unoctets q)
        match found with
        | none => fail (p ++ ": not found") 2
        | some q =>
          match ← scriptText q with
          | .error reason => fail ("cannot open " ++ q ++ ": " ++ reason) 2
          | .ok text =>
            modify fun m => { m with speaker := some q, status := 0 }
            match ← attempt (nested (source fuel {} { rest := text })) with
            | some (.finished n) => setStatus n
            | some s => throw s
            | none => pure ()
    | "exec" =>
      let m ← get
      match args with
      | [] => setStatus 0
      | program :: rest =>
        match findProgram m.disk none (searchPaths (m.value? "PATH") program) with
        | .error e =>
          complain (program ++ ": " ++ e.reason)
          throw (.exit e.status)
        | .ok (path, _) =>
          set { m.withoutTraps.dropSaved with speaker := none }
          match ← start fuel path program rest m.exports with
          | .ok e => throw e.stop
          | .error e =>
            complain (program ++ ": " ++ e.reason)
            throw (.exit e.status)
    | "type" =>
      let mut status := 0
      for a in args do
        status := max status (← tell true a)
      setStatus status
    | _ =>
      let ofName (a : String) (rest : List String) : Sh Unit :=
        if isBuiltin a then builtin fuel tested false a rest else program fuel { tested } a rest
      match args with
      | [] => setStatus 0
      | s :: rest =>
        match s.toList with
        | '-' :: c :: cs =>
          if s == "--" then
            match rest with
            | a :: more => ofName a more
            | [] => setStatus 0
          else
            match (c :: cs).find? fun c => !(['p', 'v', 'V'].contains c) with
            | some c => fail ("command: Illegal option -" ++ String.singleton c) 2
            | none =>
              if (c :: cs) == ['p'] then runner fuel tested name rest
              else
                match rest with
                | [] => setStatus 0
                | a :: _ => setStatus (← tell ((c :: cs).contains 'V') a)
        | _ => ofName s rest

/-- Runs a program by its name. -/
def program (fuel : Nat) (w : Flow) (name : String) (args : List String) : Sh Unit :=
  match fuel with
  | 0 => throw (.exit 255)
  | fuel + 1 => do
    let m ← get
    if name.isEmpty then
      complain ": Permission denied"
      setStatus 127
    else
      match findProgram m.disk none (searchPaths (m.value? "PATH") name) with
      | .error e =>
        complain (name ++ ": " ++ e.reason)
        setStatus e.status
      | .ok (path, _) =>
        remember name
        if w.last && !m.hasTraps then
          modify Machine.dropSaved
          let e ← runTask fuel (.program path name args m.exports)
          throw e.stop
        else
          let p ← fork id (.program path name args m.exports)
          let e ← awaitAll [p]
          setStatus e.status

/-- Becomes the program at a path under a name. A file that is no program and names none is run by
the shell. -/
def start (fuel : Nat) (path name : String) (args : List String) (env : List (String × String)) :
    Sh (Except ExecError Ending) :=
  match fuel with
  | 0 => throw (.exit 255)
  | fuel + 1 => do
    let m ← get
    match resolve m.disk maxLevels path name args with
    | .error .noProgram =>
      let e ← shell fuel "sh" (path :: args) env
      return .ok e
    | .error e => return .error e
    | .ok (program, name, args) =>
      if shellNames.contains program then
        let e ← shell fuel name args env
        return .ok e
      else if starterNames.contains program then
        let e ← starter fuel program name args env
        return .ok e
      else
        match ← performNamed program name args env with
        | some e => return .ok e
        | none => return .error .noProgram

/-- What a process does that was started by another one. -/
def runTask (fuel : Nat) (t : Task) : Sh Ending :=
  match fuel with
  | 0 => throw (.exit 255)
  | fuel + 1 => do
    match t with
    | .body c tested =>
      let stop ← attempt (command fuel { tested, last := true } c)
      conclude fuel stop
    | .program path name args env =>
      match ← start fuel path name args env with
      | .ok e => return e
      | .error e =>
        complain (name ++ ": " ++ e.reason)
        return .exited e.status

/-- Runs a program that starts others. -/
def starter (fuel : Nat) (program called : String) (args : List String)
    (env : List (String × String)) : Sh Ending :=
  match fuel with
  | 0 => throw (.exit 255)
  | fuel + 1 => do
    spend startingTime
    if program == "find" then findFiles fuel called args env
    else
      let m ← get
      let input ← if program != "xargs" then pure ""
        else
          match (Plan.inputArguments args).value? 'a' with
          | some p =>
            pure ((m.disk.read (unoctets p)).toOption.elim "" fun c => Data.text c.toBytes)
          | none => do pure (← readAll 0).text
      match plan program called args env input with
      | .print s =>
        match ← write 1 (.ofText s) with
        | some problem => return .exited (← reportProblem program called problem)
        | none => return .exited 0
      | .refuse complaint status =>
        report ((if complaint.startsWith "Try " then "" else called ++ ": ") ++ complaint ++ "\n")
        return .exited status
      | .each lines traced =>
        let problem := m.inputProblem?
        modify fun m => m.attach 0 { target := .device .null, writes := false }
        let e ← repeated fuel called traced lines env 0
        match problem with
        | some problem =>
          report (called ++ ": error closing file" ++
            (if problem = .directory then "" else ": " ++ problem.reason) ++ "\n")
          return .exited (max 1 e.status)
        | none => return e
      | .timed name rest env limit => runLimited called name rest env limit
      | .once name rest env directory =>
        match directory.map fun dir => m.disk.stat (unoctets dir) with
        | some (.error e) =>
          report (called ++ ": cannot change directory to " ++
            Tool.quoted (directory.getD "") ++ ": " ++ e.reason ++ "\n")
          return .exited 125
        | place =>
          let cwd := match place with
            | some (.ok (l, _)) => l
            | _ => m.disk.cwd
          set { m with toCommon := { m.toCommon with disk := { m.disk with cwd } } }
          match ← pathFor program called name env with
          | .error status => return .exited status
          | .ok path =>
            match ← start fuel path name rest env with
            | .ok e => return e
            | .error e => return .exited e.status

/-- Walks through directories and does what is asked. -/
def findFiles (fuel : Nat) (called : String) (args : List String) (env : List (String × String)) :
    Sh Ending :=
  match fuel with
  | 0 => throw (.exit 255)
  | fuel + 1 => do
    match Tool.Find.read args with
    | .error e =>
      report (called ++ ": " ++ e ++ "\n")
      return .exited 1
    | .ok (paths, c, o) =>
      let mut status := 0
      let mut starts : List (Bool × Tool.Find.Found) := []
      for p in paths do
        match Tool.Find.entryAt (← get).disk (o.follow || o.followFirst) p with
        | .ok (location, entry) => starts := starts ++ [(false, ⟨p, p, location, entry, 0⟩)]
        | .error e =>
          report (called ++ ": " ++ Tool.cited p ++ ": " ++ e.reason ++ "\n")
          status := 1
      let (failed, gathered) ← walk fuel o c env starts [] false
      let failedTogether ← runGathered fuel env gathered.reverse
      let m ← get
      if m.lost then
        discard <| reportProblem "find" called (if (m.stream? 1).isNone then .closed else .noSpace)
      return .exited (if failed || failedTogether || m.lost then 1 else status)

/-- Visits entries. Those that are marked have had their directory visited before. -/
def walk (fuel : Nat) (o : Tool.Find.Options) (c : Tool.Find.Criterion)
    (env : List (String × String)) (ahead : List (Bool × Tool.Find.Found))
    (gathered : List (List String × String)) (failed : Bool) :
    Sh (Bool × List (List String × String)) :=
  match fuel, ahead with
  | 0, _ => throw (.exit 255)
  | _, [] => return (failed, gathered)
  | fuel + 1, (visited, f) :: ahead => do
    let disk := (← get).stamped.disk
    let goesOn := f.entry.isDirectory && !o.deepest.any (· ≤ f.depth)
    let isOpen := f.entry.attributes.allows .read
    let inner : List (Bool × Tool.Find.Found) :=
      if goesOn && isOpen then (f.children disk o).map (false, ·) else []
    if o.innerFirst && !visited then walk fuel o c env (inner ++ (true, f) :: ahead) gathered failed
    else
      let verdict ← if f.depth < o.shallowest then pure { holds := true } else do
        examine fuel c env f
      if goesOn && !isOpen && !verdict.pruned then
        report ("find: " ++ Tool.cited f.path ++ ": Permission denied\n")
      let gathered := verdict.gathered ++ gathered
      let failed := failed || verdict.failed || goesOn && !isOpen
      if verdict.quits then return (failed, gathered)
      let inner := if o.innerFirst || verdict.pruned then [] else inner
      walk fuel o c env (inner ++ ahead) gathered failed

/-- Asks a criterion of an entry. -/
def examine (fuel : Nat) (c : Tool.Find.Criterion) (env : List (String × String))
    (f : Tool.Find.Found) : Sh Tool.Find.Verdict :=
  match fuel with
  | 0 => throw (.exit 255)
  | fuel + 1 => do
    match c with
    | .test holds => return { holds := holds (← get).stamped.disk f }
    | .print ending =>
      print (f.path ++ ending)
      return { holds := true }
    | .format text =>
      print (f.filled (← get).disk text.toList)
      return { holds := true }
    | .prune => return { holds := true, pruned := true }
    | .quit => return { holds := true, quits := true }
    | .delete =>
      let m ← get
      let refused (reason : String) : Sh Tool.Find.Verdict := do
        report ("find: cannot delete " ++ Tool.cited f.path ++ ": " ++ reason ++ "\n")
        return { holds := false, failed := true }
      if !(m.disk.below f.location).isEmpty && f.entry.isDirectory then
        refused "Directory not empty"
      else if !m.disk.mayChange f.location then refused "Permission denied"
      else
        if f.path != "." then
          set { m with toCommon := { m.toCommon with disk := m.disk.erase f.location } }
        return { holds := true }
    | .run words =>
      let line := Tool.Find.onEntry words f.path
      let e ← runFor "find" "find" (line.headD "") line.tail env
      return { holds := e.status == 0 }
    | .runTogether words => return { holds := true, gathered := [(words, f.path)] }
    | .negation c =>
      let v ← examine fuel c env f
      return { v with holds := !v.holds }
    | .both a b =>
      let v ← examine fuel a env f
      if !v.holds || v.quits then return v
      let w ← examine fuel b env f
      return v.after w
    | .either a b =>
      let v ← examine fuel a env f
      if v.holds || v.quits then return v
      let w ← examine fuel b env f
      return v.after w

/-- Runs programs on all the entries that were gathered for them, and tells whether one has
failed. -/
def runGathered (fuel : Nat) (env : List (String × String))
    (gathered : List (List String × String)) : Sh Bool :=
  match fuel, gathered with
  | 0, _ => throw (.exit 255)
  | _, [] => return false
  | fuel + 1, (words, p) :: rest => do
    let paths := p :: (rest.filter fun g => g.1 == words).map Prod.snd
    let e ← runFor "find" "find" (words.headD "") (words.tail ++ paths) env
    let others ← runGathered fuel env (rest.filter fun g => g.1 != words)
    return others || e.status != 0

/-- Runs command lines one after the other. -/
def repeated (fuel : Nat) (called : String) (traced : Bool) (lines : List (List String))
    (env : List (String × String)) (status : Nat) : Sh Ending :=
  match fuel, lines with
  | 0, _ => throw (.exit 255)
  | _, [] => return .exited status
  | fuel + 1, l :: ls => do
    if traced then report (" ".intercalate (l.map (Tool.quotedIfNeeded [])) ++ "\n")
    let e ← runFor "xargs" called (l.headD "") l.tail env
    match e with
    | .exited 0 => repeated fuel called traced ls env status
    | .exited 126 => return .exited 126
    | .exited 127 => return .exited 127
    | .exited 255 =>
      report (called ++ ": " ++ l.headD "" ++ ": exited with status 255; aborting\n")
      return .exited 124
    | .exited _ => repeated fuel called traced ls env 123
    | .killed n =>
      report (called ++ ": " ++ l.headD "" ++ ": terminated by signal " ++ toString n ++ "\n")
      return .exited 125

/-- Runs a fresh shell by its arguments: a script in an argument, in a file, or in the input. -/
def shell (fuel : Nat) (name : String) (args : List String) (env : List (String × String)) :
    Sh Ending :=
  match fuel with
  | 0 => throw (.exit 255)
  | fuel + 1 => do
    spend startingTime
    let outer := (← get).withoutTraps
    set { ({ toCommon := outer.toCommon, name } : Machine) with
      table := outer.table, bindings := initialBindings env outer.disk outer.parent
      place := placeOf env outer.disk, self := outer.self, process := outer.self,
      parent := outer.parent
      line := 0, traps := outer.traps, clock := outer.clock, horizon := outer.horizon
      crowded := outer.crowded }
    let stop ← attempt (script fuel false false args)
    conclude fuel stop

/-- Runs the script that the arguments of a shell name. `text` tells that it is an argument itself,
`input` that it is to be read from the input. -/
def script (fuel : Nat) (text input : Bool) (args : List String) : Sh Unit :=
  match fuel with
  | 0 => throw (.exit 255)
  | fuel + 1 => do
    let option? : Option (Char × List Char × List String) := match args with
      | s :: rest =>
        match s.toList with
        | '-' :: c :: cs => if s == "--" then none else some ('-', c :: cs, rest)
        | '+' :: c :: cs => some ('+', c :: cs, rest)
        | _ => none
      | [] => none
    match option? with
    | some (sign, letters, rest) =>
      for c in letters.filter fun c => c != 'c' && c != 's' && c != 'o' && c != 'l' do
        Builtin.setLetter sign c
      let rest ← if letters.contains 'o' then do
          match rest with
          | option :: rest =>
            Builtin.setNamed (sign == '-') option
            pure rest
          | [] => pure []
        else pure rest
      script fuel (text || letters.contains 'c') (input || letters.contains 's') rest
    | none =>
      let args := match args with
        | "--" :: rest => rest
        | "-" :: rest => rest
        | args => args
      if text then
        match args with
        | [] => fail "-c requires an argument" 2
        | body :: rest =>
          modify fun m => { m with name := rest.headD m.name, arguments := rest.tail, line := 1 }
          source fuel {} { rest := body.toList }
      else
        match input, args with
        | false, path :: rest =>
          match ← scriptText path with
          | .error reason => fail ("cannot open " ++ path ++ ": " ++ reason) 2
          | .ok text =>
            modify fun m => { m with name := path, arguments := rest, line := 1 }
            source fuel {} { rest := text }
        | _, args =>
          modify fun m => { m with arguments := args, line := 1 }
          fromInput fuel { rest := [] } false

/-- Runs the commands of the input. It is read in blocks, so that the commands themselves find only
what comes after the block. `ended` tells that there is nothing more to read. -/
def fromInput (fuel : Nat) (r : Reader) (ended : Bool) : Sh Unit :=
  match fuel with
  | 0 => throw (.exit 255)
  | fuel + 1 => do
    let m ← get
    let before := { r with
      aliases := m.aliases, documents := m.documents, nextDocument := m.nextDocument }
    let result := (Read.list (readingFuel r.rest) .line []).run before
    -- A command that goes on to the end of the block may go on in the next one.
    let isWhole := match result with
      | .ok (_, after) =>
        !after.rest.isEmpty ||
          (r.rest.getLast? == some '\n' && after.documents.length == before.documents.length)
      | .error _ => false
    if !isWhole && !ended then
      let block ← readBlock
      if block.isEmpty then fromInput fuel r true
      else fromInput fuel { r with rest := r.rest ++ block.text.toList } false
    else
      match result with
      | .error e =>
        modify fun m => { m with line := e.line }
        fail e.message 2
      | .ok (c, after) =>
        modify fun m => { m with documents := after.documents, nextDocument := after.nextDocument }
        match c with
        | .nothing => pure ()
        | c => command fuel {} c
        match after.pushed with
        | some .finish =>
          if ended then return
          fromInput fuel { after with documents := [], pushed := none } false
        | _ => fromInput fuel { after with documents := [] } ended

end

end Sh

end AstCompare.Shell
