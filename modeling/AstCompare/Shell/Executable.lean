import AstCompare.Shell.Data

/-!
# Files that can be run

A file can be run if it is marked so and is a program, or if its first line names a file that can be
run and that reads the first one. A name without a slash is looked for in several directories.

## Main definitions

* `ExecError`: why a program cannot be started.
* `resolve`: the program behind a path, with its arguments.
* `searchPaths`, `findProgram`: the path behind a name.
-/

namespace AstCompare.Shell

/-- Why a program cannot be started. -/
inductive ExecError where
  | disk (e : DiskError)
  /-- The file is no program and does not name one. -/
  | noProgram
  /-- A file names a file that names a file, and so on. -/
  | tooManyLevels
  deriving DecidableEq, Repr

/-- The words of the shell for the error. -/
def ExecError.reason : ExecError → String
  | disk .notFound | disk .notDirectory => "not found"
  | disk e => e.reason
  | noProgram => "Exec format error"
  | tooManyLevels => "Too many levels of symbolic links"

/-- The words of other programs for the error. -/
def ExecError.systemReason : ExecError → String
  | disk e => e.reason
  | e => e.reason

/-- The exit code for the error. -/
def ExecError.status : ExecError → Nat
  | disk .notFound | disk .notDirectory => 127
  | _ => 126

/-- What is to be run for a path: a program by its name, or another path with arguments before the
present ones. -/
inductive Runnable where
  | program (name : String)
  | other (path : String) (arguments : List String)

/-- How much of a file is looked at for its first line. -/
def headSize : Nat := 256

/-- The interpreter that the first line of a file names, with its argument. A line that goes on
beyond what is looked at is cut, but the name of the interpreter has to be there as a whole. -/
def interpreter? (b : ByteArray) : Option (Except ExecError (String × Option String)) :=
  let head := (unpack (b.extract 0 headSize ++ Data.zeros (headSize - b.size))).toList
  let blank (c : Char) : Bool := c == ' ' || c == '\t'
  let ends (c : Char) : Bool := blank c || c == '\x00'
  match head with
  | '#' :: '!' :: rest =>
    let name := rest.dropWhile blank
    let isCut := !rest.contains '\n'
    if isCut && !name.any ends then some (.error .noProgram)
    else
      let line := if isCut then rest.dropLast else rest.takeWhile (· != '\n')
      let line := ((line.reverse.dropWhile blank).reverse).dropWhile blank
      let path := line.takeWhile fun c => !ends c
      let argument := match line.drop path.length with
        | '\x00' :: _ => []
        | more => (more.dropWhile blank).takeWhile (· != '\x00')
      some (if line.isEmpty then .error .noProgram
        else .ok (String.ofList path,
          if argument.isEmpty then none else some (String.ofList argument)))
  | _ => none

/-- What is to be run for a path. -/
def runnable (d : Disk) (path : String) : Except ExecError Runnable :=
  match d.stat (unoctets path) with
  | .error e => .error (.disk e)
  | .ok (_, .file _ c a) =>
    if !a.allows .run then .error (.disk .refused)
    else
      match c, c.program? with
      | _, some name => .ok (.program name)
      | .bytes b, none =>
        match interpreter? b with
        | some (.ok (interpreter, argument)) => .ok (.other interpreter (argument.toList ++ [path]))
        | some (.error e) => .error e
        | none => .error .noProgram
      | _, none => .error .noProgram
  | .ok _ => .error (.disk .refused)

/-- The program behind a path, with its arguments and the name under which it is called. `fuel`
bounds how many files may name each other. -/
def resolve (d : Disk) (fuel : Nat) (path name : String) (args : List String) :
    Except ExecError (String × String × List String) :=
  match fuel with
  | 0 => .error .tooManyLevels
  | fuel + 1 => do
    match ← runnable d path with
    | .program program => return (program, name, args)
    | .other other before => resolve d fuel other other (before ++ args)

/-- The greatest number of files that may name each other. -/
def maxLevels : Nat := 6

/-- The paths at which a name is looked for. -/
def searchPaths (path : Option String) (name : String) : List String :=
  if name.contains '/' then [name]
  else ((path.getD "").splitOn ":").map fun dir => if dir.isEmpty then name else dir ++ "/" ++ name

/-- The first path at which a program stands that can be started. A refusal on the way is told if
there is no other. -/
def findProgram (d : Disk) (refusal : Option ExecError) : List String →
    Except ExecError (String × Except ExecError (String × String × List String))
  | [] => .error (refusal.getD (.disk .notFound))
  | p :: ps =>
    match resolve d maxLevels p p [] with
    | .ok r => .ok (p, .ok r)
    | .error (.disk .refused) => findProgram d (some (.disk .refused)) ps
    | .error (.disk .notFound) | .error (.disk .notDirectory) => findProgram d refusal ps
    | .error e => .ok (p, .error e)

end AstCompare.Shell
