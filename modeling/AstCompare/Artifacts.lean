import AstCompare.Path

/-!
# Names of the pictures

A comparison leaves three pictures in its output directory. With fixed names every run replaces the
pictures of the run before it; with a run id in the names, runs with different ids never meet.

## Main definitions

* `Naming`: fixed names, or names that carry a run id.
* `Artifacts`: the paths of the three pictures.
-/

namespace AstCompare

/-- How the pictures of a run are named. -/
inductive Naming where
  | fixed
  | perRun (id : String)
  deriving DecidableEq, Repr

namespace Naming

/-- The run id, if the names carry one. -/
def runId : Naming → Option String
  | fixed => none
  | perRun id => some id

/-- The file name of the picture with that stem. -/
def fileName : Naming → String → String
  | fixed, stem => stem ++ ".png"
  | perRun id, stem => stem ++ "-" ++ id ++ ".png"

/-- The number of characters of a generated run id. -/
def runIdLength : Nat := 8

/-- The run id made of sixteen-valued random digits, in lower case. -/
def runIdOfDigits (digits : List Nat) : String :=
  String.ofList ((digits.take runIdLength).map fun d => Nat.digitChar (d % 16))

end Naming

/-- The paths of the three pictures of a run. -/
structure Artifacts where
  before : String
  after : String
  comparison : String
  deriving DecidableEq, Repr

/-- The paths in an output directory. -/
def Artifacts.ofNaming (dir : String) (n : Naming) : Artifacts where
  before := Path.join dir (n.fileName "original_ast")
  after := Path.join dir (n.fileName "optimized_ast_highlighted")
  comparison := Path.join dir (n.fileName "ast_comparison")

end AstCompare
