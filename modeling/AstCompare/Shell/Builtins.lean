import AstCompare.Shell.Condition
import AstCompare.Shell.Fields
import AstCompare.Shell.Printf
import AstCompare.Shell.Process
import AstCompare.Shell.Programs

/-!
# Commands of the shell

The commands that are part of the shell itself, because they change its state: variables, options,
arguments, the working directory, and what is done in the end. Those that run other commands are
defined together with the running of commands.

## Main definitions

* `builtin?`: the command of a name.
-/

namespace AstCompare.Shell

/-- A command of the shell: from its arguments to its exit code. -/
abbrev Builtin := List String → Sh Nat

/-- A value between quotes, in the way in which the shell reads it again. -/
def singleQuoted (s : String) : String :=
  "'" ++ s.replace "'" "'\"'\"'" ++ "'"

/-- The name and the value around the first equals sign. -/
def splitAssignment (s : String) : String × Option String :=
  match s.toList.dropWhile (· != '=') with
  | _ :: value => (String.ofList (s.toList.takeWhile (· != '=')), some (String.ofList value))
  | [] => (s, none)

/-- The number that an argument has to be. -/
def wantedNumber (s : String) : Sh Nat := do
  match if s.toList.all Char.isDigit then s.toNat? else none with
  | some n => if n < 2147483648 then return n else Sh.fail ("Illegal number: " ++ s) 2
  | none => Sh.fail ("Illegal number: " ++ s) 2

namespace Builtin

/-- Takes options that have letters from the front of arguments. Others are complained about. -/
def takeOptions (allowed : List Char) : List String → Sh (List Char × List String)
  | [] => return ([], [])
  | s :: rest => do
    match s.toList with
    | ['-', '-'] => return ([], rest)
    | '-' :: c :: cs =>
      match (c :: cs).find? fun c => !allowed.contains c with
      | some c => Sh.fail ("Illegal option -" ++ String.singleton c) 2
      | none =>
        let (letters, others) ← takeOptions allowed rest
        return (c :: cs ++ letters, others)
    | _ => return ([], s :: rest)

/-! ### Printing and testing -/

/-- Prints its arguments, with a line feed unless the first says otherwise. -/
def echo : Builtin := fun args => do
  let (newline, args) := match args with
    | "-n" :: rest => (false, rest)
    | _ => (true, args)
  let (cs, ended) := escapes (" ".intercalate args).toList
  Sh.print (String.ofList cs ++ if newline && !ended then "\n" else "")
  return 0

/-- Prints arguments by a format. -/
def format : Builtin := fun args => do
  match args with
  | [] => Sh.fail "usage: printf format [arg ...]" 2
  | f :: rest =>
    let (f, rest) ← match f.toList, rest with
      | ['-', '-'], g :: more => pure (g, more)
      | ['-', '-'], [] => Sh.fail "usage: printf format [arg ...]" 2
      | '-' :: c :: _, _ => Sh.fail ("Illegal option -" ++ String.singleton c) 2
      | _, _ => pure (f, rest)
    let p := printf f rest
    for c in p.complaints do
      Sh.complain c
    Sh.print p.out
    if p.status = 2 then throw (.failed 2)
    return p.status

/-- Tells whether a condition holds. -/
def condition (bracket : Bool) : Builtin := fun args => do
  let v := (← get).view
  match if bracket then Condition.evaluateBracket v args else Condition.evaluate v args with
  | .ok v => return if v then 0 else 1
  | .error e => Sh.fail e.message 2

/-! ### Variables -/

/-- Prints variables in the order of their names. -/
def listVariables (word : String) (wanted : Variable → Bool) (unset : Bool) : Sh Unit := do
  let vars := ((← get).bindings.filter fun v => wanted v.2 && (unset || v.2.value.isSome)).mergeSort
    fun a b => decide (a.1 ≤ b.1)
  Sh.print (joinLines (vars.map fun (name, v) =>
    word ++ name ++ (v.value.map fun s => "=" ++ singleQuoted s).getD ""))

/-- Changes variables, each of which may also be given a value. -/
def declare (word : String) (mark : Variable → Variable) (wanted : Variable → Bool) : Builtin :=
  fun args => do
    let (letters, args) ← takeOptions ['p'] args
    if args.isEmpty || !letters.isEmpty then
      listVariables (word ++ " ") wanted true
      return 0
    else
      for a in args do
        let (name, value) := splitAssignment a
        if !isName name then Sh.fail (name ++ ": bad variable name") 2
        match value with
        | some v => Sh.assign name v
        | none => pure ()
        modify fun m => m.setVariable name (mark ((m.binding? name).getD ⟨none, false, false⟩))
      return 0

/-- Hides variables of the same names until the present function is over. -/
def localVariables : Builtin := fun args => do
  if (← get).hidden.isEmpty then Sh.fail "not in a function" 2
  for a in args do
    let (name, value) := splitAssignment a
    if name == "-" then pure ()
    else if !isName name then Sh.fail (name ++ ": bad variable name") 2
    else
      modify fun m =>
        match m.hidden with
        | frame :: frames =>
          if frame.any fun x => x.1 == name then m
          else { m with hidden := ((name, m.binding? name) :: frame) :: frames }
        | [] => m
      match value with
      | some v => Sh.assign name v
      | none => pure ()
  return 0

/-- Forgets variables or functions. -/
def unset : Builtin := fun args => do
  let (letters, args) ← takeOptions ['v', 'f'] args
  let functions := letters.getLast? == some 'f'
  for name in args do
    if functions then
      modify fun m => { m with functions := m.functions.filter fun f => f.1 != name }
    else
      if !isName name then Sh.fail (name ++ ": bad variable name") 2
      let m ← get
      match m.binding? name with
      | some v =>
        if v.fixed then Sh.fail (name ++ ": is read only") 2
        set (m.dropVariable name)
      | none => pure ()
  return 0

/-- The options of the shell that have letters. -/
def optionNames : List (String × Char) :=
  [("errexit", 'e'), ("noglob", 'f'), ("ignoreeof", 'I'), ("interactive", 'i'), ("monitor", 'm'),
    ("noexec", 'n'), ("stdin", 's'), ("xtrace", 'x'), ("verbose", 'v'), ("vi", 'V'), ("emacs", 'E'),
    ("noclobber", 'C'), ("allexport", 'a'), ("notify", 'b'), ("nounset", 'u'), ("privileged", 'p'),
    ("nolog", 'L'), ("debug", 'D')]

/-- The options in the order in which they are shown. -/
def optionOrder : List Char :=
  ['e', 'f', 'I', 'i', 'm', 'n', 's', 'x', 'v', 'V', 'E', 'C', 'a', 'b', 'u', 'p']

/-- The machine with an option set or not. -/
def setOption (m : Machine) (on : Bool) (c : Char) : Machine :=
  let options := m.options.filter (· != c)
  { m with
    options := if on then optionOrder.reverse.filter ((c :: options).contains ·) else options }

/-- Sets an option. Jobs cannot be controlled without a terminal. -/
def changeOption (on : Bool) (c : Char) : Sh Unit := do
  if on && c == 'm' then Sh.complain "can't access tty; job control turned off"
  else modify fun m => setOption m on c

/-- Sets an option that is given by its name. -/
def setNamed (on : Bool) (name : String) : Sh Unit := do
  match optionNames.lookup name with
  | some c => changeOption on c
  | none => Sh.fail ("Illegal option " ++ (if on then "-o " else "+o ") ++ name) 2

/-- Sets an option that is given by its letter. -/
def setLetter (sign letter : Char) : Sh Unit :=
  if (optionNames.any fun o => o.2 == letter) && !(['L', 'D'].contains letter) then
    changeOption (sign == '-') letter
  else Sh.fail ("Illegal option " ++ String.ofList [sign, letter]) 2

/-- Prints all options, as they are or as commands. -/
def listOptions (commands : Bool) : Sh Unit := do
  let m ← get
  if commands then
    Sh.print (joinLines (optionNames.map fun (name, c) =>
      "set " ++ (if m.has c then "-o " else "+o ") ++ name))
  else
    let shown (s : String) : String := s ++ String.ofList (List.replicate (16 - s.length) ' ')
    Sh.print ("Current option settings\n" ++ joinLines (optionNames.map fun (name, c) =>
      shown name ++ if m.has c then "on" else "off"))

/-- Reads options from arguments, and sets them. What is left of the arguments is told, unless there
was nothing but options. -/
def readOptions : List String → Sh (Option (List String))
  | [] => return none
  | s :: rest => do
    match s.toList with
    | ['-', '-'] => return some rest
    | ['-'] =>
      modify fun m => setOption (setOption m false 'x') false 'v'
      return if rest.isEmpty then none else some rest
    | sign :: c :: cs =>
      if sign == '-' || sign == '+' then
        for letter in (c :: cs).filter (· != 'o') do
          setLetter sign letter
        if (c :: cs).contains 'o' then
          match rest with
          | name :: more =>
            setNamed (sign == '-') name
            readOptions more
          | [] =>
            listOptions (sign == '+')
            return none
        else readOptions rest
      else return some (s :: rest)
    | _ => return some (s :: rest)

/-- Changes options and arguments, or lists variables. -/
def setOptions : Builtin := fun args => do
  if args.isEmpty then
    listVariables "" (fun _ => true) false
  else
    match ← readOptions args with
    | some arguments => modify fun m => { m with arguments, optionPlace := 0 }
    | none => pure ()
  return 0

/-- Drops arguments from the front. -/
def shift : Builtin := fun args => do
  let n ← match args with
    | s :: _ => wantedNumber s
    | [] => pure 1
  let m ← get
  if m.arguments.length < n then Sh.fail "can't shift that many" 2
  set { m with arguments := m.arguments.drop n }
  return 0

/-! ### Input -/

/-- The bytes up to the end of a line, as they stand there and with those that a backslash protects
marked, how many they are, and whether the line has an end. Without `raw` a backslash joins
lines. -/
def takeLine (raw : Bool) (n : Nat) (acc : List Glyph) : List Char → List Glyph × Nat × Bool
  | [] => (acc.reverse, n, false)
  | '\n' :: _ => (acc.reverse, n + 1, true)
  | '\\' :: c :: cs =>
    if raw then takeLine raw (n + 1) (.char '\\' false true :: acc) (c :: cs)
    else if c = '\n' then takeLine raw (n + 2) acc cs
    else takeLine raw (n + 2) (.char c true false :: acc) cs
  | '\x00' :: cs => takeLine raw (n + 1) acc cs
  | c :: cs => takeLine raw (n + 1) (.char c false true :: acc) cs

/-- The glyph is a separator that is a blank. -/
def isBlankSeparator (separators : List Char) : Glyph → Bool
  | .char c _ true => separators.contains c && (c == ' ' || c == '\t' || c == '\n')
  | _ => false

/-- The glyph is a separator. -/
def isSeparator (separators : List Char) : Glyph → Bool
  | .char c _ true => separators.contains c
  | _ => false

/-- The values for some names: each but the last takes a field, and the last takes what is left. -/
def distribute (separators : List Char) : List String → List Glyph → List (String × String)
  | [], _ => []
  | [name], gs =>
    let gs := gs.dropWhile (isBlankSeparator separators)
    match Glyph.fields separators gs with
    | [] => [(name, "")]
    | [field] => [(name, sourceText field)]
    | _ =>
      let kept := (gs.reverse.dropWhile (isBlankSeparator separators)).reverse
      [(name, Glyph.text separators kept)]
  | name :: names, gs =>
    let gs := gs.dropWhile (isBlankSeparator separators)
    let field := gs.takeWhile fun g => !isSeparator separators g
    let rest := (gs.drop field.length).dropWhile (isBlankSeparator separators)
    -- Blanks and one other separator end a field together.
    let rest := match rest with
      | g :: more => if isSeparator separators g then more else rest
      | [] => []
    (name, Glyph.text separators field) :: distribute separators names rest

/-- Takes a line of input into variables. -/
def readLine : Builtin := fun args => do
  let rec options (raw : Bool) : List String → Sh (Bool × List String)
    | "-r" :: rest => options true rest
    -- Nobody is there who could be prompted.
    | "-p" :: _ :: rest => options raw rest
    | "--" :: rest => return (raw, rest)
    | s :: rest =>
      match s.toList with
      | '-' :: c :: cs =>
        if c == 'r' && cs.isEmpty then options true rest
        else Sh.fail ("Illegal option -" ++ String.singleton c) 2
      | _ => return (raw, s :: rest)
    | [] => return (raw, [])
  let (raw, names) ← options false args
  if names.isEmpty then Sh.fail "arg count" 2
  let text ← Sh.readLine 0 !raw
  let (gs, _, complete) := takeLine raw 0 [] text.text.toList
  for (name, value) in distribute (← get).separators names gs do
    if !isName name then Sh.fail (name ++ ": bad variable name") 2
    Sh.assign name value
  return if complete then 0 else 1

/-! ### The working directory -/

/-- The working directory as a path, in the way in which it was reached. -/
def workingPath (m : Machine) : String :=
  m.place.getD (Tool.pathOf m.disk.cwd)

/-- The path that is meant by another one from a directory on, by names only: two dots lead to the
directory that is named before. -/
def pathFrom (base p : String) : String :=
  -- Two slashes at the beginning stay, if there are not more of them.
  let double (s : String) : Bool := match s.toList with
    | '/' :: '/' :: c :: _ => c != '/'
    | ['/', '/'] => true
    | _ => false
  let isAbsolute := p.startsWith "/"
  let parts (s : String) : List String := (s.splitOn "/").filter (· != "")
  let reached := (parts p).foldl (fun (l : List String) part =>
    if part == ".." then l.dropLast else if part == "." then l else l ++ [part])
    (if isAbsolute then [] else parts base)
  (if double (if isAbsolute then p else base) then "//" else "/") ++ "/".intercalate reached

/-- Changes the working directory. By its names a path may lead elsewhere than by its links. -/
def changeDirectory : Builtin := fun args => do
  let (letters, args) ← takeOptions ['L', 'P'] args
  let m ← get
  let (target, printed) := match args with
    | [] => ((m.value? "HOME").getD "", false)
    | "-" :: _ => ((m.value? "OLDPWD").getD "", true)
    | s :: _ => (s, false)
  let direct :=
    target.startsWith "/" || target == "." || target == ".." || target.startsWith "./" ||
    target.startsWith "../"
  let wanted := if target.isEmpty then "." else target
  let isDirectory (p : String) : Bool := m.disk.isDirectory (unoctets p)
  let found := if direct then none else
    (m.value? "CDPATH").bind fun dirs => (dirs.splitOn ":").findSome? fun dir =>
      let p := if dir.isEmpty then wanted else Tool.within dir wanted
      if isDirectory p then some (p, !dir.isEmpty) else none
  let (path, shown) := found.getD (wanted, printed)
  let isPhysical := letters.getLast? == some 'P'
  let old := workingPath m
  let path := if isPhysical then path else pathFrom old path
  match m.disk.stat (unoctets path) with
  | .ok (l, .directory a) =>
    if !a.allows .run then Sh.fail ("can't cd to " ++ target) 2
    let exported (name value : String) (m : Machine) : Machine :=
      m.setVariable name { ((m.binding? name).getD ⟨none, false, false⟩) with
        value := some value, exported := true }
    let place := if isPhysical || Tool.pathOf l == path then none else some path
    let m := { m with toCommon := { m.toCommon with disk := { m.disk with cwd := l } }, place }
    set (exported "PWD" (workingPath m) (exported "OLDPWD" old m))
    if shown || printed then Sh.print (workingPath m ++ "\n")
    return 0
  | _ => Sh.fail ("can't cd to " ++ target) 2

/-- Prints the working directory. -/
def printDirectory : Builtin := fun args => do
  let (letters, _) ← takeOptions ['L', 'P'] args
  let m ← get
  Sh.print ((if letters.getLast? == some 'P' then Tool.pathOf m.disk.cwd else workingPath m) ++
    "\n")
  return 0

/-! ### Leaving -/

/-- Ends the shell. -/
def exit : Builtin := fun args => do
  let n ← match args with
    | s :: _ => wantedNumber s
    | [] => do pure (← get).status
  throw (.exit (n % 256))

/-- Ends the present function or file. -/
def finish : Builtin := fun args => do
  let n ← match args with
    | s :: _ => wantedNumber s
    | [] => do pure (← get).status
  throw (.finished n)

/-- Ends loops, or their present rounds. -/
def jump (stop : Nat → Stop) : Builtin := fun args => do
  let n ← match args with
    | s :: _ => do
      let n ← wantedNumber s
      if n = 0 then Sh.fail ("Illegal number: " ++ s) 2
      pure n
    | [] => pure 1
  let loops := (← get).loops
  if loops = 0 then return 0
  Sh.setStatus 0
  throw (stop (min n loops))

/-! ### Signals -/

/-- The job that a word means. -/
def job? (m : Machine) (s : String) : Option Job :=
  match s with
  | "%" | "%%" | "%+" => m.jobs.head?
  | "%-" => (m.jobs[1]?).or m.jobs.head?
  | s => ((s.dropPrefix? "%").bind fun n => digits? n.toString).bind fun n =>
    if n = 0 then none else m.jobs.reverse[n - 1]?

/-- Sends signals. -/
def kill : Builtin := fun args => do
  let usage :=
    "Usage: kill [-s sigspec | -signum | -sigspec] [pid | job]... or\nkill -l [exitstatus]"
  let send (n : Nat) (targets : List String) : Sh Nat := do
    if targets.isEmpty then Sh.fail usage 2
    let mut status := 0
    for t in targets do
      let m ← get
      -- A job is no group of processes of its own, so it cannot be found by its number.
      let target ← if t.startsWith "%" then
          match job? m t with
          | some _ => pure none
          | none => Sh.fail ("No such job: " ++ t) 2
        else
          match t.dropPrefix? "-" with
          | some group =>
            if (digits? group.toString).isNone then Sh.fail ("Illegal number: " ++ t) 2
            pure none
          | none =>
            match digits? t with
            | some p => pure (some p)
            | none => Sh.fail ("Illegal number: " ++ t) 2
      let reply ← match target with
        | some p => Sh.request (.signal p n)
        | none => pure 1
      if reply != 0 then
        Sh.complain (if reply = 1 then "No such process\n" else "Operation not permitted\n")
        status := 1
    return status
  match args with
  | [] => Sh.fail usage 2
  | "-l" :: rest =>
    match rest with
    | [] =>
      Sh.print (joinLines ("0" :: (signalNames.tail.map Prod.snd)))
      return 0
    | s :: _ =>
      let n ← wantedNumber s
      let n := if 128 < n then n - 128 else n
      match signalNames.lookup n with
      | some name =>
        Sh.print (name ++ "\n")
        return 0
      | none => Sh.fail ("invalid signal number or exit status: " ++ s) 2
  | "-s" :: name :: rest =>
    match signal? name with
    | some n => send n rest
    | none => Sh.fail ("invalid signal number or name: " ++ name) 2
  | "--" :: rest => send 15 rest
  | s :: rest =>
    match s.toList with
    | '-' :: c :: cs =>
      match signal? (String.ofList (c :: cs)) with
      | some n => send n (if rest.head? == some "--" then rest.tail else rest)
      | none => Sh.fail ("Illegal option -" ++ String.singleton c) 2
    | _ => send 15 (s :: rest)

/-- Says what is done when signals come, or in the end. -/
def trap : Builtin := fun args => do
  let (_, args) ← takeOptions [] args
  match args with
  | [] =>
    let traps := (← get).traps.mergeSort fun a b => decide (a.1 ≤ b.1)
    Sh.print (joinLines (traps.map fun (n, action) =>
      "trap -- " ++ singleQuoted action ++ " " ++ (signalNames.lookup n).getD (toString n)))
    return 0
  | action :: rest =>
    let clears :=
      action == "-" || rest.isEmpty || (signal? action).isSome && action.toList.all Char.isDigit
    let signals := if clears && action != "-" then args else rest
    let mut status := 0
    for s in signals do
      match signal? s with
      | some n =>
        modify fun m =>
          let others := m.traps.filter fun t => t.1 != n
          { m with traps := if clears then others else (n, action) :: others }
      | none =>
        Sh.report ("trap: " ++ s ++ ": bad trap\n")
        status := 1
    return status

/-- Waits until some jobs have ended, or until a signal comes, whose number is then told. With
`told` signals that end them meanwhile are told, too. -/
def waitForJobs (fuel : Nat) (told : Bool) (isMeant : Job → Bool) : Sh (Option Nat) :=
  match fuel with
  | 0 => return none
  | fuel + 1 => do
    let ended ← Sh.noteJobs
    let m ← get
    if told then
      for e in ended do
        if m.jobs.any fun j => isMeant j && j.processes.contains e.process then
          Sh.tellEnding e.ending
    let running := m.jobs.filter fun j => j.ending?.isNone
    if !running.any isMeant then
      modify fun m =>
        { m with jobs := m.jobs.map fun j => if isMeant j then { j with waited := true } else j }
      return none
    match m.pending with
    | n :: _ => return some n
    | [] =>
      Sh.pause (.ended (running.flatMap Job.processes) none true)
      waitForJobs fuel told isMeant

/-- Waits for commands that were not waited for. -/
def wait : Builtin := fun args => do
  let (_, args) ← takeOptions [] args
  if args.isEmpty then
    match ← waitForJobs Sh.patience false fun _ => true with
    | some n => return 128 + n
    | none => return 0
  let mut status := 127
  for s in args do
    let m ← get
    let job ← if s.startsWith "%" then
        match job? m s with
        | some j => pure (some j)
        | none => Sh.fail ("No such job: " ++ s) 2
      else do
        let n ← wantedNumber s
        pure (m.jobs.find? fun j => j.last == n)
    match job with
    | none => pure ()
    | some j =>
      match ← waitForJobs Sh.patience true fun k => k.last == j.last with
      | some n => return 128 + n
      | none =>
        let ending := ((← get).jobs.find? fun k => k.last == j.last).bind Job.ending?
        status := (ending.getD (.exited 0)).status
  return status

/-! ### Aliases -/

/-- Gives names to texts, which are then read in their place. -/
def nameCommands : Builtin := fun args => do
  let m ← get
  if args.isEmpty then
    let all := m.aliases.mergeSort fun a b => decide (a.1 ≤ b.1)
    Sh.print (joinLines (all.map fun (name, value) => name ++ "=" ++ singleQuoted value))
    return 0
  let mut status := 0
  for a in args do
    match splitAssignment a with
    | (name, some value) =>
      if name.isEmpty then
        Sh.report ("alias: " ++ a ++ " not found\n")
        status := 1
      else
        modify fun m =>
          { m with aliases := (name, value) :: m.aliases.filter fun x => x.1 != name }
    | (name, none) =>
      match (← get).aliases.lookup name with
      | some value => Sh.print (name ++ "=" ++ singleQuoted value ++ "\n")
      | none =>
        Sh.report ("alias: " ++ name ++ " not found\n")
        status := 1
  return status

/-- Forgets such names. -/
def unalias : Builtin := fun args => do
  let (letters, args) ← takeOptions ['a'] args
  if !letters.isEmpty then modify fun m => { m with aliases := [] }
  let mut status := 0
  for name in args do
    if (← get).aliases.any fun x => x.1 == name then
      modify fun m => { m with aliases := m.aliases.filter fun x => x.1 != name }
    else
      Sh.report ("unalias: " ++ name ++ " not found\n")
      status := 1
  return status

/-! ### Options of scripts -/

/-- Reads the next option from arguments. -/
def nextOption : Builtin := fun args => do
  match args with
  | spec :: name :: rest =>
    let m ← get
    let words := if rest.isEmpty then m.arguments else rest
    let index := ((m.value? "OPTIND").bind String.toNat?).getD 1
    let place := if m.optionPlace = 0 then 1 else m.optionPlace
    let silent := spec.startsWith ":"
    let word := (words[index - 1]?).getD ""
    let cs := word.toList
    let finish (index place : Nat) : Sh Unit := do
      Sh.assign "OPTIND" (toString index)
      modify fun m => { m with optionPlace := place }
    if m.optionPlace = 0 && (cs.length < 2 || cs.head? != some '-') then
      finish index 0
      Sh.assign name "?"
      return 1
    if m.optionPlace = 0 && word == "--" then
      finish (index + 1) 0
      Sh.assign name "?"
      return 1
    let c := (cs[place]?).getD '?'
    let more := place + 1 < cs.length
    let after := if more then (index, place + 1) else (index + 1, 0)
    let known := c != ':' && (spec.toList.dropWhile (· == ':')).contains c
    let wantsValue := match spec.toList.dropWhile (· != c) with
      | _ :: ':' :: _ => true
      | _ => false
    if !known then
      finish after.1 after.2
      if silent then Sh.assign "OPTARG" (String.singleton c)
      else
        modify fun m => m.dropVariable "OPTARG"
        Sh.report ("Illegal option -" ++ String.singleton c ++ "\n")
      Sh.assign name "?"
      return 0
    if wantsValue then
      let value := if more then some (String.ofList (cs.drop (place + 1))) else words[index]?
      match value with
      | some v =>
        finish (if more then index + 1 else index + 2) 0
        Sh.assign "OPTARG" v
        Sh.assign name (String.singleton c)
      | none =>
        finish (index + 1) 0
        if silent then
          Sh.assign "OPTARG" (String.singleton c)
          Sh.assign name ":"
        else
          modify fun m => m.dropVariable "OPTARG"
          Sh.report ("No arg for -" ++ String.singleton c ++ " option\n")
          Sh.assign name "?"
      return 0
    finish after.1 after.2
    Sh.assign "OPTARG" ""
    Sh.assign name (String.singleton c)
    return 0
  | _ => Sh.fail "Usage: getopts optstring var [arg...]" 2

/-! ### The system -/

/-- A number in base eight. -/
def octalText (n : Nat) : String :=
  let ds := String.ofList (Nat.toDigits 8 n)
  String.ofList (List.replicate (4 - ds.length) '0') ++ ds

/-- The mask after one clause such as `g+r`: whose, how, and which permissions. -/
def maskClause (mask : Nat) (clause : List Char) : Option Nat :=
  let who := clause.takeWhile fun c => ['u', 'g', 'o', 'a'].contains c
  let who := if who.isEmpty || who.contains 'a' then ['u', 'g', 'o'] else who
  match clause.dropWhile fun c => ['u', 'g', 'o', 'a'].contains c with
  | how :: what =>
    if !(['+', '-', '='].contains how) || what.any fun c => !(['r', 'w', 'x'].contains c) then none
    else
      let bits := (if what.contains 'r' then 4 else 0) + (if what.contains 'w' then 2 else 0) +
        (if what.contains 'x' then 1 else 0)
      some (who.foldl (fun mask w =>
        let shift := match w with
          | 'u' => 64
          | 'g' => 8
          | _ => 1
        let old := mask / shift % 8
        let new := match how with
          | '+' => old &&& (7 - bits)
          | '-' => old ||| bits
          | _ => 7 - bits
        mask - old * shift + new * shift) mask)
  | [] => none

/-- Says which permissions new files do not get. -/
def setMask (mask : Nat) : Sh Unit :=
  modify fun m => { m with toCommon := { m.toCommon with disk := { m.disk with mask } } }

/-- Prints or changes which permissions new files do not get. -/
def fileMask : Builtin := fun args => do
  let (letters, args) ← takeOptions ['S'] args
  match args with
  | [] =>
    let n := (← get).disk.mask
    let bits (k : Nat) : String :=
      let b := 7 - n / Nat.pow 8 k % 8
      (if b / 4 % 2 = 1 then "r" else "") ++ (if b / 2 % 2 = 1 then "w" else "") ++
        (if b % 2 = 1 then "x" else "")
    Sh.print (if letters.isEmpty then octalText n ++ "\n"
      else "u=" ++ bits 2 ++ ",g=" ++ bits 1 ++ ",o=" ++ bits 0 ++ "\n")
    return 0
  | s :: _ =>
    if s.toList.all fun c => '0' ≤ c && c ≤ '7' then
      let n := s.toList.foldl (fun n c => n * 8 + (c.toNat - 48)) 0
      setMask (n % 512)
      return 0
    else if (s.toList.head?.map Char.isDigit).getD false then Sh.fail ("Illegal number: " ++ s) 2
    else
      match (s.splitOn ",").foldlM (fun mask c => maskClause mask c.toList) (← get).disk.mask with
      | some mask =>
        setMask mask
        return 0
      | none => Sh.fail ("Illegal mode: " ++ s) 2

/-- Does nothing, with the given exit code. -/
def constant (status : Nat) : Builtin := fun _ => return status

/-- Prints a fixed text. -/
def fixedText (s : String) : Builtin := fun _ => do
  Sh.print s
  return 0

/-- Lists the processes of commands that were not waited for. -/
def listJobs : Builtin := fun args => do
  let (letters, _) ← takeOptions ['l', 'p'] args
  if letters.contains 'p' then
    for j in (← get).jobs.reverse do
      Sh.print (toString (j.processes.headD 0) ++ "\n")
  return 0

/-- Goes on with a command that was stopped. There is none. -/
def noJob : Builtin := fun args => do
  let (_, args) ← takeOptions [] args
  match args with
  | s :: _ => Sh.fail (if s.startsWith "%" then "No such job: " ++ s else "Illegal number: " ++ s) 2
  | [] => Sh.fail "No current job" 2

/-- Where along the search path a program stands. -/
def programPath? (m : Machine) (name : String) : Option String :=
  if name.contains '/' then if m.disk.hasEntry (unoctets name) then some name else none
  else
    let candidates := (((m.value? "PATH").getD "").splitOn ":").map fun dir =>
      if dir.isEmpty then name else dir ++ "/" ++ name
    candidates.find? fun p => match m.disk.stat (unoctets p) with
      | .ok (_, .file _ _ a) => a.allows .run
      | _ => false

/-- Looks for programs, or tells which have been found. -/
def hash : Builtin := fun args => do
  let (letters, names) ← takeOptions ['r', 'v'] args
  if letters.contains 'r' then modify fun m => { m with found := [] }
  else if names.isEmpty then
    let m ← get
    for name in m.foundPrograms do
      Sh.print ((programPath? m name).getD name ++ "\n")
  let mut status := 0
  for name in names do
    if (programPath? (← get) name).isSome then Sh.remember name
    else
      Sh.complain (name ++ ": not found")
      status := 1
  return status

end Builtin

/-- The commands of the shell that run no other commands. -/
def builtins : List (String × Builtin) :=
  [(":", Builtin.constant 0), ("true", Builtin.constant 0), ("false", Builtin.constant 1),
    ("echo", Builtin.echo), ("printf", Builtin.format), ("test", Builtin.condition false),
    ("[", Builtin.condition true), ("read", Builtin.readLine), ("set", Builtin.setOptions),
    ("shift", Builtin.shift), ("unset", Builtin.unset),
    ("export", Builtin.declare "export" (fun v => { v with exported := true }) Variable.exported),
    ("readonly", Builtin.declare "readonly" (fun v => { v with fixed := true }) Variable.fixed),
    ("local", Builtin.localVariables), ("cd", Builtin.changeDirectory),
    ("chdir", Builtin.changeDirectory), ("pwd", Builtin.printDirectory), ("exit", Builtin.exit),
    ("return", Builtin.finish), ("break", Builtin.jump .leave), ("continue", Builtin.jump .next),
    ("kill", Builtin.kill), ("trap", Builtin.trap), ("wait", Builtin.wait),
    ("alias", Builtin.nameCommands), ("unalias", Builtin.unalias), ("getopts", Builtin.nextOption),
    ("umask", Builtin.fileMask), ("ulimit", Builtin.fixedText "unlimited\n"),
    ("times", Builtin.fixedText "0m0.000000s 0m0.000000s\n0m0.000000s 0m0.000000s\n"),
    ("hash", Builtin.hash), ("jobs", Builtin.listJobs),
    ("bg", Builtin.noJob), ("fg", Builtin.noJob)]

/-- The command of the shell of a name, if it runs no other commands. -/
def builtin? (name : String) : Option Builtin :=
  builtins.lookup name

/-- The commands of the shell that run other commands. -/
def runningBuiltins : List String := [".", "command", "eval", "exec", "type"]

/-- The name is that of a command of the shell. -/
def isBuiltin (name : String) : Bool :=
  (builtin? name).isSome || runningBuiltins.contains name

/-- The commands of the shell whose arguments may be assignments. -/
def declarationBuiltins : List String := ["export", "readonly", "local"]

end AstCompare.Shell
