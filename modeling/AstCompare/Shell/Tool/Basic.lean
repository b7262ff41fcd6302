import AstCompare.Shell.Tool.Quoting
import AstCompare.Shell.View

/-!
# Small programs

Scripts call small programs that copy, count and cut what they read. Such a program is a computation
on a state: the disk, what it can still read from its input, and what it has printed. What it prints
on its output is kept back until it ends, unless it says otherwise; its complaints are printed at
once.

## Main definitions

* `Work`: the state of a program.
* `Tool`: a program, from its arguments to what it does.
* `Work.Effect`: what is left when it has ended.
-/

namespace AstCompare.Shell

/-- The state of a program. -/
structure Work where
  disk : Disk
  /-- What is behind its streams. -/
  streams : List (Nat × Nature) := []
  /-- The variables that it was started with. -/
  environment : List (String × String) := []
  /-- What can still be read, and how much has been. -/
  input : Data := .empty
  taken : Nat := 0
  /-- Nothing more will come. -/
  complete : Bool := true
  /-- The input was asked for, and more of it was wanted than has come so far. -/
  wanted : Bool := false
  starved : Bool := false
  /-- What was read too far can be given back. -/
  seekable : Bool := false
  /-- The number of the file that the output goes to, and the place in it. -/
  output : Option (Nat × Nat) := none
  /-- What has been read from pipes that have names, by their numbers. -/
  pipes : List (Nat × Data) := []
  /-- What has been printed, the latest first: on the error stream if it is marked. -/
  printed : List (Bool × Data) := []
  /-- What is kept back, the latest first. -/
  held : List Data := []
  status : Nat := 0
  /-- How long it has waited, in milliseconds. -/
  slept : Nat := 0

/-- What a program does. -/
abbrev Doing := StateM Work

/-- A program, from its arguments to what it does. -/
abbrev Tool := List String → Doing Unit

namespace Tool

/-! ### Output -/

/-- Prints data on the output, in the end. -/
def hold (d : Data) : Doing Unit :=
  modify fun w => { w with held := d :: w.held }

/-- Prints text on the output, in the end. -/
def say (s : String) : Doing Unit :=
  hold (.ofText s)

/-- Prints lines on the output, in the end. -/
def sayLines (ls : List String) : Doing Unit :=
  say (joinLines ls)

/-- Prints what has been kept back. -/
def flush : Doing Unit :=
  modify fun w => { w with printed := w.held.map (false, ·) ++ w.printed, held := [] }

/-- Prints data at once. -/
def put (d : Data) : Doing Unit := do
  hold d
  flush

/-- Prints a line on the error stream. -/
def warn (s : String) : Doing Unit :=
  modify fun w => { w with printed := (true, .ofText (s ++ "\n")) :: w.printed }

/-- The exit code is at least this. -/
def atLeast (status : Nat) : Doing Unit :=
  modify fun w => { w with status := max status w.status }

/-- Complains, and fails in the end. -/
def complain (s : String) (status : Nat) : Doing Unit := do
  warn s
  atLeast status

/-- Complains about wrong arguments. -/
def misuse (name s : String) (status : Nat) : Doing Unit :=
  complain (name ++ ": " ++ s ++ "\nTry '" ++ name ++ " --help' for more information.") status

/-! ### Input and files -/

/-- Takes all of the input. -/
def takeInput : Doing Data :=
  modifyGet fun w =>
    (w.input,
      { w with
        input := .empty, taken := w.taken + w.input.size, wanted := true
        starved := w.starved || !w.complete })

/-- Takes so much of the input, and waits for it if it has not come yet. -/
def takeBytes (n : Nat) : Doing Unit :=
  modify fun w =>
    let m := min n w.input.size
    { w with
      input := w.input.drop m, taken := w.taken + m, wanted := true
      starved := w.starved || (!w.complete && w.input.size < n) }

/-- Takes so much of the input. What cannot be given back is read in blocks. -/
def consume (block n : Nat) : Doing Unit :=
  modify fun w =>
    let m := min w.input.size (if w.seekable then n else (n + block - 1) / block * block)
    { w with input := w.input.drop m, taken := w.taken + m, wanted := true }

/-- What has come of the input so far in whole lines. -/
def wholeLines : Doing String := do
  let w ← get
  let text := w.input.text
  if w.complete || text.endsWith "\n" then return text
  return String.ofList (text.toList.reverse.dropWhile (· != '\n')).reverse

/-- What the program sees. -/
def view : Doing View := do
  let w ← get
  return ⟨w.disk, w.streams⟩

/-- What stands at a path. -/
def stat (p : String) : Doing (Except DiskError (Location × Entry)) := do
  return (← view).stat p

/-- What stands at a path, where a link is not followed. -/
def lstat (p : String) : Doing (Except DiskError (Location × Entry)) := do
  return (← view).lstat p

/-- The path leads to a directory. -/
def isDirectory (p : String) : Doing Bool := do
  return (← get).disk.isDirectory (unoctets p)

/-- The path leads to something. -/
def hasEntry (p : String) : Doing Bool := do
  return (← get).disk.hasEntry (unoctets p)

/-- What a file holds. -/
def readFile (p : String) : Doing (Except DiskError Data) := do
  let w ← get
  if streamNumber? p = some 0 then
    if (w.streams.lookup 0).isNone then return .error .notFound
    return .ok (← takeInput)
  match (View.mk w.disk w.streams).stat p with
  | .ok (_, .pipe id _) => return .ok ((w.pipes.lookup id).getD .empty)
  | .ok (_, .file _ c a) => return if a.allows .read then .ok c.toBytes else .error .refused
  | _ => return (w.disk.read (unoctets p)).map Content.toBytes

/-- Changes the disk, or tells why that cannot be. -/
def change (f : Disk → Except DiskError Disk) : Doing (Option DiskError) := do
  let w ← get
  match f w.disk with
  | .ok disk =>
    set { w with disk }
    return none
  | .error e => return some e

/-- Writes a file. -/
def writeContent (p : String) (c : Content) : Doing (Option DiskError) := do
  match streamNumber? p with
  | some 1 =>
    put c.toBytes
    return none
  | some 2 =>
    modify fun w => { w with printed := (true, c.toBytes) :: w.printed }
    return none
  | some n =>
    match (← get).streams.lookup n with
    | some (.file id _ a) =>
      modify fun w => { w with disk := w.disk.changeFile id c a }
      return none
    | some _ => return none
    | none => return some .notFound
  | none => change fun disk => disk.write (unoctets p) c

/-- Writes a file. -/
def writeFile (p : String) (d : Data) : Doing (Option DiskError) :=
  writeContent p (.bytes d)

/-- The data of a file, or of the input if it is a hyphen. If it cannot be read, the complaint
begins with a given text. -/
def sourceOr (complaint p : String) (status : Nat) : Doing (Option Data) := do
  if p = "-" then return some (← takeInput)
  match ← readFile p with
  | .ok d => return some d
  | .error e =>
    complain (complaint ++ ": " ++ e.reason) status
    return none

/-- The data of a file, or of the input if it is a hyphen. A file that cannot be read is complained
about. -/
def source (name p : String) (status : Nat) : Doing (Option Data) :=
  sourceOr (name ++ ": " ++ shown p) p status

/-- The data of the named files one after the other, or of the input if none is named. -/
def sources (name : String) (files : List String) (status : Nat) : Doing Data := do
  let parts ← (if files.isEmpty then ["-"] else files).mapM fun p => source name p status
  return Data.join (parts.filterMap id)

/-- Asks a question on the error stream, and tells whether the next line of the input says yes. -/
def ask (question : String) : Doing Bool :=
  modifyGet fun w =>
    let n := lineEnd false w.input 0
    let isWhole := 0 < n && w.input[n - 1]? == some 10
    (w.input[0]? == some 121 || w.input[0]? == some 89,
      { w with
        printed := (true, .ofText question) :: w.printed
        input := w.input.drop n, taken := w.taken + n, wanted := true
        starved := w.starved || (!w.complete && !isWhole) })

/-! ### Arguments -/

/-- Options and the other arguments: the options are given by a letter, some of which take a
value. -/
structure Arguments where
  flags : List Char := []
  values : List (Char × String) := []
  others : List String := []
  /-- An option that is not known. -/
  unknown : Option Char := none
  /-- An option whose value is missing. -/
  missing : Option Char := none

/-- The flag is given. -/
def Arguments.has (a : Arguments) (c : Char) : Bool :=
  a.flags.contains c

/-- The last value of an option. -/
def Arguments.value? (a : Arguments) (c : Char) : Option String :=
  a.values.reverse.lookup c

/-- Reads the letters of one argument: flags, and at the end perhaps an option whose value
follows. -/
def readLetters (flags valued : List Char) (a : Arguments) : List Char → Arguments × Option Char
  | [] => (a, none)
  | c :: cs =>
    if valued.contains c then
      if cs.isEmpty then (a, some c)
      else ({ a with values := a.values ++ [(c, String.ofList cs)] }, none)
    else if flags.contains c then readLetters flags valued { a with flags := a.flags ++ [c] } cs
    else ({ a with unknown := a.unknown.or (some c) }, none)

/-- Reads arguments. `waiting` is an option whose value comes next; with `mixed` options may also
follow other arguments. -/
def readArguments (flags valued : List Char) (mixed : Bool) (a : Arguments)
    (waiting : Option Char) : List String → Arguments
  | [] => { a with missing := a.missing.or waiting }
  | s :: rest =>
    match waiting with
    | some c => readArguments flags valued mixed { a with values := a.values ++ [(c, s)] } none rest
    | none =>
      if s = "--" then { a with others := a.others ++ rest }
      else
        match s.toList with
        | '-' :: c :: cs =>
          let (a, waiting) := readLetters flags valued a (c :: cs)
          readArguments flags valued mixed a waiting rest
        | _ =>
          let a := { a with others := a.others ++ [s] }
          if mixed then readArguments flags valued mixed a none rest
          else { a with others := a.others ++ rest }

/-- The letter that stands for a name. Of a name the beginning is enough if no other name has it
too. -/
def letterFor? (names : List (String × Char)) (name : String) : Option Char :=
  match names.lookup name, (names.filter fun n => n.1.startsWith name).map Prod.snd with
  | some letter, _ => some letter
  | none, letter :: others => if others.all (· == letter) then some letter else none
  | none, [] => none

/-- The options that have names, as letters. -/
def spellOut (names : List (String × Char)) : List String → List String
  | [] => []
  | "--" :: rest => "--" :: rest
  | s :: rest =>
    let spelled := match s.toList with
      | '-' :: '-' :: cs =>
        let name := String.ofList (cs.takeWhile (· != '='))
        let value := cs.dropWhile (· != '=')
        match letterFor? names name with
        | some letter =>
          if value.isEmpty then ["-" ++ String.singleton letter]
          else ["-" ++ String.singleton letter, String.ofList value.tail]
        | none => [s]
      | _ => [s]
    spelled ++ spellOut names rest

/-- Reads the arguments of a program, complains about those that are wrong, and goes on with the
others. -/
def withArguments (name : String) (flags valued : String) (status : Nat) (args : List String)
    (body : Arguments → Doing Unit) : Doing Unit := do
  let a := readArguments flags.toList valued.toList true {} none args
  match a.unknown, a.missing with
  | some '-', _ =>
    let long := (args.find? fun s => s.startsWith "--" && s != "--").getD ""
    misuse name ("unrecognized option '" ++ long ++ "'") status
  | some c, _ => misuse name ("invalid option -- '" ++ String.singleton c ++ "'") status
  | none, some c =>
    misuse name ("option requires an argument -- '" ++ String.singleton c ++ "'") status
  | none, none => body a

/-- The text with zeros and line feeds exchanged: where zeros end lines, line feeds are characters
like others. -/
def swapEnds (s : String) : String :=
  s.map fun c => if c == '\x00' then '\n' else if c == '\n' then '\x00' else c

/-- The number that an argument spells. -/
def number? (s : String) : Option Nat :=
  digits? s

/-- An amount that arguments name: a number with a letter that multiplies it. -/
def amount? (s : String) : Option Nat :=
  let digits := s.toList.takeWhile Char.isDigit
  let unit := String.ofList (s.toList.drop digits.length)
  let factor := match unit with
    | "" | "c" => some 1
    | "w" => some 2
    | "b" => some 512
    | "k" | "K" | "KiB" => some 1024
    | "kB" | "KB" => some 1000
    | "M" | "MiB" => some 1048576
    | "MB" => some 1000000
    | "G" | "GiB" => some 1073741824
    | _ => none
  match (String.ofList digits).toNat?, factor with
  | some n, some f => some (n * f)
  | _, _ => none

/-! ### Columns -/

/-- The text with blanks in front up to a width. -/
def padLeft (width : Nat) (s : String) : String :=
  String.ofList (List.replicate (width - s.length) ' ') ++ s

/-- The text with blanks behind up to a width. -/
def padRight (width : Nat) (s : String) : String :=
  s ++ String.ofList (List.replicate (width - s.length) ' ')

/-- Runs a program on a state and prints what it has kept back. -/
def run (t : Tool) (args : List String) (w : Work) : Work :=
  ((do t args; flush : Doing Unit).run w).2

end Tool

end AstCompare.Shell
