import AstCompare.Shell.Condition
import AstCompare.Shell.Regex
import AstCompare.Shell.Tool.Listing

/-!
# Looking for files

`find` walks through directories and asks a criterion of each entry. A criterion may also do
something with the entry, such as printing its path or running a program on it, and whether it holds
may depend on how that went. What a criterion is, and how it is written, is defined here; the walk
is defined with the running of programs.

## Main definitions

* `Find.Found`: an entry that was come across.
* `Find.Criterion`: what is asked of an entry.
* `Find.read`: the criterion that arguments describe.
-/

namespace AstCompare.Shell.Tool.Find

/-- An entry that was come across: its path, the path where the walk began, and how deep it
stands. -/
structure Found where
  path : String
  start : String
  location : Location
  entry : Entry
  depth : Nat

/-- What is asked of an entry. -/
inductive Criterion where
  | test (holds : Disk → Found → Bool)
  /-- Prints the path, with an ending. -/
  | print (ending : String)
  /-- Prints by a format. -/
  | format (f : String)
  | delete
  /-- What is below the entry is left out. -/
  | prune
  /-- Nothing else is looked at. -/
  | quit
  /-- Runs a program on the entry. -/
  | run (command : List String)
  /-- Runs a program on this and other entries in the end. -/
  | runTogether (command : List String)
  | negation (c : Criterion)
  | both (a b : Criterion)
  | either (a b : Criterion)

/-- The criterion does something with the entry. -/
def Criterion.acts : Criterion → Bool
  | print _ | format _ | delete | quit | run _ | runTogether _ => true
  | test _ | prune => false
  | negation c => c.acts
  | both a b | either a b => a.acts || b.acts

/-- What holds for the whole walk. -/
structure Options where
  deepest : Option Nat := none
  shallowest : Nat := 0
  /-- What is below a directory comes before it. -/
  innerFirst : Bool := false
  /-- Links lead on, or those do where the walk begins. -/
  follow : Bool := false
  followFirst : Bool := false

/-- Reading takes arguments away, and may set options. -/
abbrev Parse := StateT (List String × Options) (Except String)

/-- The next argument. -/
def peek : Parse (Option String) := do
  return (← get).1.head?

/-- Drops the next argument. -/
def advance : Parse Unit :=
  modify fun s => (s.1.tail, s.2)

/-- The argument of a word. -/
def argument (word : String) : Parse String := do
  match (← get).1 with
  | a :: _ =>
    advance
    return a
  | [] => throw ("missing argument to \x60" ++ word ++ "'")

/-- A number that is compared: more than, less than, or exactly. -/
def comparison (s : String) : Option (Nat → Bool) :=
  match s.toList with
  | '+' :: cs => (String.ofList cs).toNat?.map fun n k => decide (n < k)
  | '-' :: cs => (String.ofList cs).toNat?.map fun n k => decide (k < n)
  | _ => s.toNat?.map fun n k => k == n

/-- The test of a size with its unit. -/
def sizeTest (s : String) : Option (Nat → Bool) :=
  let unit := match s.toList.getLast? with
    | some 'c' => some 1
    | some 'w' => some 2
    | some 'k' => some 1024
    | some 'M' => some 1048576
    | some 'b' => some 512
    | _ => none
  match unit with
  | some u => (comparison (s.dropEnd 1).toString).map fun p n => p ((n + u - 1) / u)
  | none => (comparison s).map fun p n => p ((n + 511) / 512)

/-- The test of permissions. -/
def permissionTest (s : String) : Option (Nat → Bool) :=
  let octal (cs : List Char) : Option Nat := changedMode? (String.ofList cs) 0 false 0
  match s.toList with
  | '-' :: cs => (octal cs).map fun m n => n &&& m == m
  | '/' :: cs => (octal cs).map fun m n => m == 0 || n &&& m != 0
  | cs => (octal cs).map fun m n => n == m

/-- The letter for the kind of an entry. -/
def kindLetter : Entry → String
  | .directory _ => "d"
  | .file _ _ _ => "f"
  | .link _ => "l"
  | .device _ => "c"
  | .pipe _ _ => "p"

/-- The path as seen from where the walk began. -/
def Found.inner (f : Found) : String :=
  if f.depth == 0 then ""
  else
    let rest := (f.path.drop f.start.length).toString
    if rest.startsWith "/" then (rest.drop 1).toString else rest

/-- The text of an entry by a format. -/
def Found.filled (d : Disk) (f : Found) : List Char → String
  | '%' :: 'p' :: cs => f.path ++ f.filled d cs
  | '%' :: 'f' :: cs => lastPart f.path ++ f.filled d cs
  | '%' :: 'h' :: cs => parentPart f.path ++ f.filled d cs
  | '%' :: 'P' :: cs => f.inner ++ f.filled d cs
  | '%' :: 's' :: cs => toString (entrySize d f.entry) ++ f.filled d cs
  | '%' :: 'd' :: cs => toString f.depth ++ f.filled d cs
  | '%' :: 'y' :: cs => kindLetter f.entry ++ f.filled d cs
  | '%' :: 'm' :: cs => octalDigits f.entry.attributes.mode ++ f.filled d cs
  | '%' :: 'M' :: cs => modeLetters f.entry ++ f.filled d cs
  | '%' :: 'l' :: cs => (match f.entry with
    | .link t => linkText d t
    | _ => "") ++ f.filled d cs
  | '%' :: 'n' :: cs => toString (entryNames d f.location f.entry) ++ f.filled d cs
  | '%' :: 'T' :: '@' :: cs =>
    toString (momentOf f.entry.attributes.modified) ++ ".0000000000" ++ f.filled d cs
  | '%' :: 'T' :: c :: cs =>
    momentText (momentOf f.entry.attributes.modified) ['%', c] ++ f.filled d cs
  | '%' :: '%' :: cs => "%" ++ f.filled d cs
  | '\\' :: 'n' :: cs => "\n" ++ f.filled d cs
  | '\\' :: 't' :: cs => "\t" ++ f.filled d cs
  | '\\' :: '0' :: cs => "\x00" ++ f.filled d cs
  | '\\' :: '\\' :: cs => "\\" ++ f.filled d cs
  | c :: cs => String.singleton c ++ f.filled d cs
  | [] => ""

/-- The pattern fits the whole text. -/
def fitsWhole (pattern : String) (fold : Bool) (s : String) : Bool :=
  let text (s : String) : String := if fold then s.map Char.toLower else s
  Pattern.fits (Pattern.parse ((text pattern).toList.map (·, false))) (text s).toList

/-- An entry with nothing in it. -/
def isEmptyEntry (d : Disk) (f : Found) : Bool :=
  match f.entry with
  | .file _ c _ => c.size == 0
  | .directory _ => (d.below f.location).isEmpty
  | _ => false

/-- Takes the words of a command up to its end, and tells whether it is run on all entries
together. -/
def commandWords (before : List String) : List String → Option (List String × Bool × List String)
  | ";" :: rest => some (before.reverse, false, rest)
  | "+" :: rest =>
    match before with
    | "\x7b\x7d" :: words => some (words.reverse, true, rest)
    | _ => commandWords ("+" :: before) rest
  | s :: rest => commandWords (s :: before) rest
  | [] => none

/-- Reads one word of a criterion with its arguments. -/
def word (s : String) : Parse Criterion := do
  let number (s a : String) : Parse Nat := match a.toNat? with
    | some n => pure n
    | none =>
      throw ("Expected a positive decimal integer argument to " ++ s ++ ", but got '" ++ a ++ "'")
  match s with
  | "-name" =>
    let a ← argument s
    return .test fun _ f => fitsWhole a false (lastPart f.path)
  | "-iname" =>
    let a ← argument s
    return .test fun _ f => fitsWhole a true (lastPart f.path)
  | "-path" | "-wholename" =>
    let a ← argument s
    return .test fun _ f => fitsWhole a false f.path
  | "-ipath" =>
    let a ← argument s
    return .test fun _ f => fitsWhole a true f.path
  | "-regex" =>
    let a ← argument s
    match Regex.parse {} a.toList with
    | .ok r => return .test fun _ f => r.fits false f.path.toList
    | .error e => throw e.message
  | "-type" =>
    let a ← argument s
    let kinds := a.splitOn ","
    match kinds.find? fun k => !(["b", "c", "d", "p", "f", "l", "s", "D"].contains k) with
    | some k =>
      throw (if 1 < k.length then "Arguments to -type should contain only one letter"
        else "Unknown argument to -type: " ++ k)
    | none => return .test fun _ f => kinds.contains (kindLetter f.entry)
  | "-empty" => return .test isEmptyEntry
  | "-size" =>
    let a ← argument s
    match sizeTest a with
    | some p => return .test fun d f => p (entrySize d f.entry)
    | none => throw ("invalid argument \x60" ++ a ++ "' to \x60-size'")
  | "-perm" =>
    let a ← argument s
    match permissionTest a with
    | some p => return .test fun _ f => p f.entry.attributes.mode
    | none => throw ("invalid mode '" ++ a ++ "'")
  | "-executable" => return .test fun _ f => f.entry.attributes.allows .run
  | "-readable" => return .test fun _ f => f.entry.attributes.allows .read
  | "-writable" => return .test fun _ f => f.entry.attributes.allows .write
  | "-true" => return .test fun _ _ => true
  | "-false" => return .test fun _ _ => false
  | "-newer" =>
    let a ← argument s
    return .test fun d f =>
      match d.stat (unoctets a) with
      | .ok (_, e) => decide (e.attributes.modified < f.entry.attributes.modified)
      | .error _ => false
  | "-mtime" | "-mmin" | "-ctime" | "-cmin" | "-atime" | "-amin" =>
    let a ← argument s
    let unit : Int := if s.endsWith "min" then 60000000 else 86400000000
    match comparison a with
    | some p => return .test fun d f => p ((d.now - f.entry.attributes.modified) / unit).toNat
    | none => throw ("invalid argument \x60" ++ a ++ "' to \x60" ++ s ++ "'")
  | "-lname" =>
    let a ← argument s
    return .test fun d f => match f.entry with
      | .link t => fitsWhole a false (linkText d t)
      | _ => false
  | "-samefile" =>
    let a ← argument s
    return .test fun d f => match d.stat (unoctets a) with
      | .ok (l, e) => isSameEntry l f.location e f.entry
      | .error _ => false
  | "-links" =>
    let a ← argument s
    match comparison a with
    | some p => return .test fun d f => p (entryNames d f.location f.entry)
    | none => throw ("invalid argument \x60" ++ a ++ "' to \x60-links'")
  | "-user" | "-group" | "-uid" | "-gid" =>
    let a ← argument s
    return .test fun _ f => (a == "root" || a == "0") == !f.entry.attributes.own
  | "-maxdepth" =>
    let n ← number s (← argument s)
    modify fun st => (st.1, { st.2 with deepest := some n })
    return .test fun _ _ => true
  | "-mindepth" =>
    let n ← number s (← argument s)
    modify fun st => (st.1, { st.2 with shallowest := n })
    return .test fun _ _ => true
  | "-depth" | "-d" =>
    modify fun st => (st.1, { st.2 with innerFirst := true })
    return .test fun _ _ => true
  | "-follow" =>
    modify fun st => (st.1, { st.2 with follow := true })
    return .test fun _ _ => true
  | "-xdev" | "-mount" | "-noleaf" | "-daystart" => return .test fun _ _ => true
  | "-print" => return .print "\n"
  | "-print0" => return .print "\x00"
  | "-printf" => return .format (← argument s)
  | "-prune" => return .prune
  | "-quit" => return .quit
  | "-delete" =>
    modify fun st => (st.1, { st.2 with innerFirst := true })
    return .delete
  | "-exec" | "-execdir" | "-ok" =>
    match commandWords [] (← get).1 with
    | some (words, together, rest) =>
      modify fun st => (rest, st.2)
      return if together then .runTogether words else .run words
    | none => throw ("missing argument to \x60" ++ s ++ "'")
  | s =>
    if s.startsWith "-" then throw ("unknown predicate \x60" ++ s ++ "'")
    else throw ("paths must precede expression: \x60" ++ s ++ "'")

mutual

/-- Reads criteria of which one has to hold. -/
def alternatives (fuel : Nat) : Parse Criterion :=
  match fuel with
  | 0 => throw "invalid expression"
  | fuel + 1 => do
    let a ← conjunction fuel
    match ← peek with
    | some "-o" | some "-or" =>
      advance
      return .either a (← alternatives fuel)
    | _ => return a

/-- Reads criteria of which all have to hold. -/
def conjunction (fuel : Nat) : Parse Criterion :=
  match fuel with
  | 0 => throw "invalid expression"
  | fuel + 1 => do
    let a ← single fuel
    match ← peek with
    | none | some "-o" | some "-or" | some ")" => return a
    | some "-a" | some "-and" =>
      advance
      return .both a (← conjunction fuel)
    | some _ => return .both a (← conjunction fuel)

/-- Reads one criterion. -/
def single (fuel : Nat) : Parse Criterion :=
  match fuel with
  | 0 => throw "invalid expression"
  | fuel + 1 => do
    match ← peek with
    | none => throw "invalid expression"
    | some s =>
      advance
      match s with
      | "!" | "-not" => return .negation (← single fuel)
      | "(" =>
        let c ← alternatives fuel
        match ← peek with
        | some ")" =>
          advance
          return c
        | _ =>
          throw "invalid expression; I was expecting to find a ')' somewhere but did not see one."
      | s => word s

end

/-- The paths where the walk begins, the criterion and the options that arguments describe, or what
is wrong. Without anything to do, paths are printed. -/
def read (args : List String) : Except String (List String × Criterion × Options) := do
  let ways := args.takeWhile fun s => ["-H", "-L", "-P"].contains s
  let start : Options :=
    { follow := ways.getLast? == some "-L", followFirst := ways.getLast? == some "-H" }
  let args := args.drop ways.length
  let paths := args.takeWhile fun s => !(s.startsWith "-" || s == "!" || s == "(")
  let rest := args.drop paths.length
  let paths := if paths.isEmpty then ["."] else paths
  if rest.isEmpty then return (paths, .print "\n", start)
  let (c, left, o) ← (alternatives (2 * rest.length + 8)).run (rest, start)
  match left with
  | [] => return (paths, if c.acts then c else .both c (.print "\n"), o)
  | s :: _ =>
    throw (if s == ")" then "invalid expression; you have too many ')'" else "invalid expression")

/-- The entry at a path, where a link leads on only if that is wanted and it leads anywhere. -/
def entryAt (d : Disk) (follow : Bool) (p : String) : Except DiskError (Location × Entry) :=
  match d.lstat (unoctets p) with
  | .ok (l, .link t) =>
    if follow then (d.stat (unoctets p)).toOption.elim (.ok (l, .link t)) .ok else .ok (l, .link t)
  | r => r

/-- The entries directly below a directory. -/
def Found.children (d : Disk) (o : Options) (f : Found) : List Found :=
  (namesIn d f.location).filterMap fun name =>
    let path := within f.path name
    (entryAt d o.follow path).toOption.map fun (location, entry) =>
      ⟨path, f.start, location, entry, f.depth + 1⟩

/-- What came out for an entry. -/
structure Verdict where
  holds : Bool
  pruned : Bool := false
  quits : Bool := false
  /-- Something went wrong. -/
  failed : Bool := false
  /-- The programs that are run in the end, each with a path. -/
  gathered : List (List String × String) := []

/-- What came out for an entry when two criteria were asked, of which the second decides. -/
def Verdict.after (v w : Verdict) : Verdict :=
  ⟨w.holds, v.pruned || w.pruned, v.quits || w.quits, v.failed || w.failed,
    w.gathered ++ v.gathered⟩

/-- The command with the path of an entry at each mark. -/
def onEntry (command : List String) (path : String) : List String :=
  command.map fun w => w.replace "\x7b\x7d" path

end AstCompare.Shell.Tool.Find
