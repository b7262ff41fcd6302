/-!
# Failures and exit codes

Everything that can end a command early is a `Failure`. The wording of each kind is fixed here and
nowhere else, and the exit code depends on the kind alone, never on the wording.

A failure is reported together with the chain of its causes. It passes through the layers of the
program on its way up, and every layer adds the message once more to the chain: a failure of the
dump three times, one of a comparison twice, one of the layout program or of the system once, and a
complaint about the command line not at all. What lies below comes last.

## Main definitions

* `Failure`, `Failure.message`, `Failure.causes`: what went wrong and how it is told.
* `ExitCode`, `Failure.exitCode`: the code with which the program ends.
-/

namespace AstCompare

/-- The codes with which the program ends. -/
inductive ExitCode where
  | ok
  | usage
  | dataError
  | noInput
  | unavailable
  | software
  | cannotCreate
  | ioError
  | config
  deriving DecidableEq, Repr

namespace ExitCode

/-- The number of an exit code. -/
def code : ExitCode → Nat
  | ok => 0
  | usage => 64
  | dataError => 65
  | noInput => 66
  | unavailable => 69
  | software => 70
  | cannotCreate => 73
  | ioError => 74
  | config => 78

end ExitCode

/-- What ended a command. -/
inductive Failure where
  /-- A dump lacks the marker line of a section. -/
  | missingMarker (marker : String)
  /-- The lines of a section are not one tree. -/
  | malformedTree (part reason : String)
  /-- A picture could not be made, read or saved. -/
  | backend (message : String) (causes : List String)
  /-- The dump could not be read. -/
  | unreadableInput (path cause : String)
  /-- The output directory could not be made. -/
  | uncreatableOutput (path cause : String)
  /-- The settings are wrong. -/
  | settings (message : String)
  /-- A step on a file failed. -/
  | operation (action path cause : String)
  /-- The operating system refused. -/
  | system (context cause : String)
  /-- The layout program failed, with its exit code unless it was killed. -/
  | layout (message : String) (code : Option Int)
  /-- The arguments contradict the state of the disk. -/
  | badArguments (message : String)
  /-- The arguments ask for nothing that can be done. -/
  | usage (message : String)
  deriving DecidableEq, Repr

namespace Failure

/-- The one-line text of a failure. -/
def message : Failure → String
  | missingMarker marker => "section marker not found: '" ++ marker ++ "'"
  | malformedTree part reason => "malformed " ++ part ++ " tree: " ++ reason
  | backend message _ => "render backend failed: " ++ message
  | unreadableInput path _ => "cannot read AST dump " ++ path
  | uncreatableOutput path _ => "cannot create output directory " ++ path
  | settings message => "config error: " ++ message
  | operation action path _ => "operation failed: " ++ action ++ ": " ++ path
  | system context _ => "I/O error: " ++ context
  | layout message _ => "graphviz failed: " ++ message
  | badArguments message => "invalid arguments: " ++ message
  | usage message => message

/-- The code with which the program ends. -/
def exitCode : Failure → ExitCode
  | missingMarker _ | malformedTree _ _ => .dataError
  | backend _ _ | layout _ _ => .unavailable
  | unreadableInput _ _ => .noInput
  | uncreatableOutput _ _ => .cannotCreate
  | settings _ => .config
  | operation _ _ _ => .software
  | system _ _ => .ioError
  | badArguments _ | usage _ => .usage

/-- The number of layers that a failure of this kind passes through. -/
def layers : Failure → Nat
  | missingMarker _ | malformedTree _ _ => 3
  | backend _ _ | unreadableInput _ _ | uncreatableOutput _ _ | settings _ | operation _ _ _ => 2
  | system _ _ | layout _ _ => 1
  | badArguments _ | usage _ => 0

/-- What lies below the program's own layers. -/
def below : Failure → List String
  | backend _ causes => causes
  | unreadableInput _ cause | uncreatableOutput _ cause | operation _ _ cause | system _ cause =>
    [cause]
  | _ => []

/-- The chain of causes, from the outermost inwards. -/
def causes (f : Failure) : List String :=
  List.replicate f.layers f.message ++ f.below

end Failure

end AstCompare
