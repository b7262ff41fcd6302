import AstCompare.Analysis
import AstCompare.Artifacts
import AstCompare.Comparison.Plan
import AstCompare.Picture.Compose

/-!
# The comparison of a dump

A comparison reads and analyses the dump before it touches anything. Then it makes the output
directory, removes a comparison picture that an earlier run left, has both graphs drawn, the first
section first, and puts the two pictures side by side. The comparison picture is written last. Every
step that fails ends the comparison.

## Main definitions

* `Comparison.Job`: what is to be compared, and how.
* `Comparison.Report`: what a comparison tells about itself.
* `Comparison.analysisPlan`, `Comparison.drawingPlan`: what is done to read the dump, and what is
  done with its analysis.
* `Comparison.plan`: the steps of a comparison.
-/

namespace AstCompare.Comparison

/-- What is to be compared, where the pictures go, and how they are named and colored. -/
structure Job where
  input : String
  outputDir : String
  naming : Naming
  palette : Palette := {}
  keepDot : Bool := false

namespace Job

/-- The paths of the three pictures. -/
def artifacts (j : Job) : Artifacts :=
  .ofNaming j.outputDir j.naming

/-- The path of the picture of a section. -/
def picturePath (j : Job) : Section → String
  | .before => j.artifacts.before
  | .after => j.artifacts.after

/-- The path at which the graph text of a section is kept. -/
def dotPath (j : Job) (s : Section) : String :=
  Path.withExtension (j.picturePath s) "dot"

/-- The request for the picture of a section. -/
def request (j : Job) (a : Analysis) (s : Section) : Layout.Request :=
  ⟨j.picturePath s, (a.graph j.palette s).text⟩

end Job

/-- What a successful comparison tells. -/
structure Report where
  naming : Naming
  artifacts : Artifacts
  nodesBefore : Nat
  nodesAfter : Nat
  changed : Nat
  added : LabelSet
  removed : LabelSet

/-- The report of an analysis. -/
def Report.ofAnalysis (j : Job) (a : Analysis) : Report where
  naming := j.naming
  artifacts := j.artifacts
  nodesBefore := a.before.count
  nodesAfter := a.after.count
  changed := (a.graph j.palette .after).changedCount
  added := a.added
  removed := a.removed

/-- Goes on only after success, and turns the error of a step into the failure of the comparison. -/
def orFail {ε α β : Type} (fail : ε → Failure) (r : Except ε α)
    (next : α → Plan (Except Failure β)) : Plan (Except Failure β) :=
  match r with
  | .error e => .done (.error (fail e))
  | .ok a => next a

/-- What comes of a dump, by the reply to reading it. -/
def analyse (input : String) : Except DiskError String → Except Failure Analysis
  | .error e => .error (.unreadableInput input e.message)
  | .ok text => Analysis.ofText text

/-- Reads a dump and analyses it. -/
def analysisPlan (input : String) : Plan (Except Failure Analysis) :=
  .call (.readText input) fun reply => .done (analyse input reply)

/-- Removes the comparison picture of an earlier run, which is there. -/
def removal (path : String) (next : Plan (Except Failure Report)) : Plan (Except Failure Report) :=
  .call (.remove path) fun reply =>
    orFail (fun e => .operation "remove stale comparison" path (DiskError.message e)) reply
      fun _ => next

/-- Removes the comparison picture of an earlier run, if there is one. -/
def removeStale (path : String) (next : Plan (Except Failure Report)) :
    Plan (Except Failure Report) :=
  .call (.hasEntry path) fun (there : Bool) => if there then removal path next else next

/-- Has the graph of a section drawn. -/
def renderSection (j : Job) (a : Analysis) (s : Section) (next : Plan (Except Failure Report)) :
    Plan (Except Failure Report) :=
  .call (.render (j.request a s)) fun reply =>
    orFail (fun e => .backend ("render " ++ j.picturePath s) (Failure.causes e)) reply fun _ => next

/-- Has the graph of a section drawn, after its text has been kept if that is wanted. -/
def drawSection (j : Job) (a : Analysis) (s : Section) (next : Plan (Except Failure Report)) :
    Plan (Except Failure Report) :=
  if j.keepDot then
    .call (.writeText (j.dotPath s) (a.graph j.palette s).text) fun reply =>
      orFail (fun e => .operation "write DOT source" (j.dotPath s) (DiskError.message e)) reply
        fun _ => renderSection j a s next
  else renderSection j a s next

/-- Loads a picture that has been drawn. -/
def loadPicture (path : String) (next : Picture → Plan (Except Failure Report)) :
    Plan (Except Failure Report) :=
  .call (.load path) fun reply =>
    orFail (fun e => .backend ("unreadable image " ++ path) [e]) reply next

/-- Puts both pictures side by side and saves the result. -/
def composePictures (j : Job) (a : Analysis) : Plan (Except Failure Report) :=
  loadPicture j.artifacts.before fun left =>
    loadPicture j.artifacts.after fun right =>
      .call (.save j.artifacts.comparison (left.beside right)) fun reply =>
        orFail (fun e => .backend ("write image " ++ j.artifacts.comparison) [e]) reply fun _ =>
          .done (.ok (.ofAnalysis j a))

/-- What a comparison does once its output directory is there. -/
def picturesPlan (j : Job) (a : Analysis) : Plan (Except Failure Report) :=
  removeStale j.artifacts.comparison <|
    drawSection j a .before <|
      drawSection j a .after <|
        composePictures j a

/-- What a comparison does once the dump has been analysed. -/
def drawingPlan (j : Job) (a : Analysis) : Plan (Except Failure Report) :=
  .call (.createDirAll j.outputDir) fun reply =>
    orFail (fun e => .uncreatableOutput j.outputDir (DiskError.message e)) reply
      fun _ => picturesPlan j a

/-- How a comparison goes on with what came of the dump. -/
def afterAnalysis (j : Job) : Except Failure Analysis → Plan (Except Failure Report)
  | .error e => .done (.error e)
  | .ok a => drawingPlan j a

/-- The steps of a comparison. -/
def plan (j : Job) : Plan (Except Failure Report) :=
  (analysisPlan j.input).bind (afterAnalysis j)

/-- The dump is read before anything else, and the reply decides how the comparison goes on. -/
theorem plan_eq_call (j : Job) :
    plan j = .call (.readText j.input) fun reply => afterAnalysis j (analyse j.input reply) :=
  rfl

end AstCompare.Comparison
