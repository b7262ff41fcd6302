import AstCompare.CommandLine.Commands

/-!
# The whole program

The program reads its command line, carries it out, and tells a failure on the error stream. Its
exit code is that of the failure; a command line that cannot be carried out ends it with a code of
its own.

## Main definitions

* `Ended`: what the program printed and how it ended.
* `program`: the program as a function.
-/

namespace AstCompare.CommandLine

/-- How the program ended. -/
structure Ended where
  exit : Nat
  output : Output
  disk : Disk

/-- The explanation of the command line. -/
def helpText : String :=
  "Side-by-side, color-coded rendering of an original and an optimized AST dump\n\n" ++
  "Usage: astviz [OPTIONS] [COMMAND]\n\n" ++
  "Commands: " ++ ", ".intercalate (grammar.commands.map Prod.fst) ++ "\n"

/-- The complaint about a command line. -/
def ArgumentError.message : ArgumentError → String
  | unknownArgument => "unexpected argument"
  | unknownCommand => "unrecognized subcommand"
  | invalidValue => "invalid or missing value"
  | refusedValue => "value not accepted"
  | repeatedOption => "an option cannot be used multiple times"
  | unwantedValue => "unexpected value for a flag"
  | missingArgument => "a required argument was not provided"
  | missingCommand => "a subcommand is required but was not provided"
  | nothingGiven | help => helpText
  | version commands => "-".intercalate ("astviz" :: commands) ++ " " ++ versionNumber ++ "\n"

/-- The exit code for a command line that is not carried out. -/
def ArgumentError.exit : ArgumentError → Nat
  | help | version _ => 0
  | _ => 2

/-- What is printed for a command line that is not carried out. -/
def ArgumentError.output : ArgumentError → Output
  | help => { stdout := ArgumentError.message .help }
  | version commands => { stdout := ArgumentError.message (.version commands) }
  | nothingGiven => { stderr := ArgumentError.message .nothingGiven }
  | e => { stderr := "error: " ++ e.message ++ "\n\nFor more information, try '--help'.\n" }

/-- The greatest useful number of debug options. -/
def maxDebug : Nat := 3

/-- A remark about too many debug options. -/
def debugRemark (n : Nat) : Output :=
  if maxDebug < n then { stderr := "Don't be crazy, max is -d -d -d\n" } else {}

/-- The program: from the words of a command line to what is printed and the exit code. -/
def program (w : World) (launch : Layout.Launcher) (words : List String) : Ended :=
  match Invocation.ofWords words with
  | .error e => ⟨e.exit, e.output, w.disk⟩
  | .ok i =>
    let o := run w launch i
    let out := debugRemark i.debug ++ o.output
    match o.result with
    | .ok _ => ⟨ExitCode.ok.code, out, o.disk⟩
    | .error f => ⟨f.exitCode.code, out ++ .failure w.colors f, o.disk⟩

end AstCompare.CommandLine
