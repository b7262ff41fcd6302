import AstCompare.Shell.Process

/-!
# Faults of streams

What programs say when they cannot read their input or write their output, and how they end then.
Each program has words of its own.

## Main definitions

* `writeFailure`: the complaint about an output that could not be written.
* `InputFault`, `inputFault?`: what becomes of a program whose input cannot be read.
-/

namespace AstCompare.Shell

/-- The complaint of a program whose output could not be written, and its exit code. -/
def writeFailure (program : String) (problem : Sh.WriteProblem) : String × Nat :=
  let reason := problem.reason
  let closed := problem = .closed
  match program with
  | "cat" => (if closed then "standard output: " ++ reason else "write error: " ++ reason, 1)
  | "sed" =>
    ((if closed then "couldn't close stdout: " else "couldn't flush stdout: ") ++ reason, 4)
  | "sort" => ("fflush failed: 'standard output': " ++ reason ++ "\nsort: write error", 2)
  | "tee" => ("'standard output': " ++ reason, 1)
  | "yes" => ("standard output: " ++ reason, 1)
  | "wc" | "cksum" | "md5sum" => (if closed then "write error: " ++ reason else "write error", 1)
  | "ls" | "grep" | "printenv" => ("write error: " ++ reason, 2)
  | "expr" => ("write error: " ++ reason, 3)
  | "env" => ("write error: " ++ reason, 125)
  | "find" =>
    ("'standard output': " ++ reason ++ "\nfind: write error" ++
      (if closed then ": " ++ reason else ""), 1)
  | _ => ("write error: " ++ reason, 1)

/-- Why the input of a program cannot be read. -/
inductive InputProblem where
  | closed
  | unreadable
  | directory
  deriving DecidableEq, Repr

/-- The words of the operating system for the problem. -/
def InputProblem.reason : InputProblem → String
  | closed | unreadable => "Bad file descriptor"
  | directory => DiskError.isDirectory.reason

/-- What becomes of a program whose input cannot be read. -/
structure InputFault where
  /-- What the first complaint is about. -/
  about : String
  /-- What a last complaint is about, when a closed stream is to be closed. -/
  closing : Option String := none
  /-- The other output of the program is printed. -/
  printsOthers : Bool := true
  status : Nat := 1

/-- What becomes of a program that reads an input which cannot be read. -/
def inputFault? (program : String) (problem : InputProblem) : Option InputFault :=
  let isDirectory := problem = .directory
  match program with
  | "cat" => some { about := "-", closing := some "closing standard input" }
  | "head" => some { about := "error reading 'standard input'", closing := some "-" }
  | "tail" =>
    some {
      about := (if isDirectory then "error reading" else "cannot fstat") ++ " 'standard input'"
      closing := some "-" }
  | "wc" => some { about := "'standard input'", closing := some "-" }
  | "od" => some { about := "'standard input'", closing := some "standard input" }
  | "tac" => some { about := "'standard input': read error", closing := some "-" }
  | "cut" | "nl" | "paste" | "fold" | "expand" | "unexpand" =>
    some { about := "-", closing := some "-" }
  | "sort" =>
    some {
      about := (if isDirectory then "read failed: -" else "stat failed: -"),
      printsOthers := false, status := 2 }
  | "sed" => some { about := "read error on stdin", status := 4 }
  | "grep" | "egrep" | "fgrep" =>
    some { about := "(standard input)", printsOthers := false, status := 2 }
  | "tr" => some { about := "read error" }
  | "tee" => some { about := "read error", closing := some "standard input" }
  | "uniq" => some { about := "error reading '-'" }
  | "dd" =>
    some {
      about := "error reading 'standard input'",
      closing := some "closing input file 'standard input'"
      printsOthers := isDirectory }
  | "md5sum" | "sha1sum" | "sha256sum" | "cksum" =>
    some { about := "-", closing := some "standard input", printsOthers := false }
  | "cmp" | "diff" => some { about := "-", printsOthers := false, status := 2 }
  | "comm" | "split" => some { about := "-", printsOthers := false }
  | "base64" => some { about := "read error", printsOthers := false }
  | "factor" => some { about := "error reading input", printsOthers := false }
  | _ => none

/-- The first complaint and the last one. -/
def InputFault.complaints (f : InputFault) (called : String) (problem : InputProblem) :
    String × String :=
  (called ++ ": " ++ f.about ++ ": " ++ problem.reason ++ "\n",
    match f.closing, problem with
    | some s, .closed => called ++ ": " ++ s ++ ": " ++ problem.reason ++ "\n"
    | _, _ => "")

/-- Why the input of a process cannot be read, if it cannot. -/
def Machine.inputProblem? (m : Machine) : Option InputProblem :=
  match m.stream? 0 with
  | none => some .closed
  | some (_, { target := .directory _, .. }) => some .directory
  | some (_, s) => if s.reads then none else some .unreadable

end AstCompare.Shell
