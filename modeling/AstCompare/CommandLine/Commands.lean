import AstCompare.CommandLine.Invocation
import AstCompare.CommandLine.Output
import AstCompare.Drawing
import AstCompare.Layout.Program
import AstCompare.Settings.Load

/-!
# Carrying out commands

A command works on a world: an environment, a disk, the choice whether to print colors, and a fresh
run id for pictures that are named per run. It leaves a new disk, what it printed, and either
success or a failure.

## Main definitions

* `World`, `Outcome`: before and after.
* `execute`: a command, with settings and a layout backend given.
* `run`: an invocation, with settings loaded and the layout program taken from them.
-/

namespace AstCompare.CommandLine

/-- The number of this version of the program. -/
def versionNumber : String := "0.3.0"

/-- What a command works on. -/
structure World where
  environment : Environment
  disk : Disk
  colors : Bool
  runId : String

/-- What a command leaves behind. -/
structure Outcome where
  result : Except Failure Unit
  output : Output
  disk : Disk

namespace Outcome

/-- A success that prints something and changes nothing. -/
def printed (d : Disk) (o : Output) : Outcome :=
  ⟨.ok (), o, d⟩

/-- A failure before anything was printed. -/
def failed (d : Disk) (f : Failure) : Outcome :=
  ⟨.error f, {}, d⟩

end Outcome

/-- What a changed label looks like in a drawn tree. -/
def drawnLabel (colors : Bool) (label : String) : Status → String
  | .unchanged => label
  | .changed => Ink.boldGreen.paint colors label ++ " " ++ Ink.green.paint colors "+"

/-- How the pictures of a comparison are named. -/
def chooseNaming (w : World) (s : Settings) (fixedNames : Bool) : Naming :=
  if fixedNames || s.fixedNames then .fixed else .perRun w.runId

/-- Prints something about the analysis of a dump. -/
def withAnalysis (w : World) (b : Layout.Backend) (input : String) (print : Analysis → Output) :
    Outcome :=
  let ran := (Comparison.analysisPlan input).run { backend := b } w.disk
  match ran.result with
  | .error f => .failed ran.disk f
  | .ok a => .printed ran.disk (print a)

/-- The comparison that is asked for. -/
def comparisonJob (w : World) (s : Settings) (input : String) (outputDir : Option String)
    (fixedNames : Bool) : Comparison.Job :=
  ⟨input, outputDir.getD s.outputDir, chooseNaming w s fixedNames, s.colors, s.keepDot⟩

/-- Compares the trees of a dump. -/
def compareDump (w : World) (b : Layout.Backend) (s : Settings) (input : String)
    (outputDir : Option String) (fixedNames : Bool) : Outcome :=
  let job := comparisonJob w s input outputDir fixedNames
  let ran := (Comparison.plan job).run { backend := b } w.disk
  match ran.result with
  | .error f => .failed ran.disk f
  | .ok r => .printed ran.disk (.report w.colors r)

/-- A path with a note on whether something is there. -/
def describePath (w : World) (path : String) : String :=
  if w.disk.hasEntry path then path ++ " " ++ Ink.green.paint w.colors "(exists)"
  else path ++ " " ++ Ink.faint.paint w.colors "(not found)"

/-- The places of the settings files. -/
def settingsPaths (w : World) (localDir : String) : Output :=
  (match Settings.globalPath? w.environment with
    | some path => Output.labelled w.colors "Global" (describePath w path)
    | none => .warning w.colors "no global config directory on this platform") ++
    .labelled w.colors "Local" (describePath w (Settings.localPath localDir))

/-- What the program knows about itself and its layout backend. -/
def about (w : World) (b : Layout.Backend) (s : Settings) (localDir : String) : Outcome :=
  let (version, disk) := b.version w.disk
  let backend := match version with
    | .ok v => Output.success w.colors ("layout backend: " ++ v)
    | .error f => .warning w.colors
        ("layout backend '" ++ s.dotProgram ++ "' unavailable: " ++ f.message)
  .printed disk
    (.header w.colors ("astviz " ++ versionNumber) ++ settingsPaths w localDir ++
      .labelled w.colors "Output" s.outputDir ++ backend)

/-- Carries out a command with the settings and the backend that are given. -/
def execute (w : World) (b : Layout.Backend) (s : Settings) (localDir : String) :
    Command → Outcome
  | .compare input outputDir fixedNames => compareDump w b s input outputDir fixedNames
  | .diff input => withAnalysis w b input fun a => .labelChanges w.colors a.added a.removed
  | .tree input part true =>
    withAnalysis w b input fun a => .text ((a.tree part).toIndented s.indentUnit)
  | .tree input part false =>
    withAnalysis w b input fun a =>
      .line (Drawing.ofTree (a.tree part) (a.coloring part) (drawnLabel w.colors)).text
  | .dot input part => withAnalysis w b input fun a => .text (a.graph s.colors part).text
  | .config .show => .printed w.disk (.line s.toToml)
  | .config .path => .printed w.disk (settingsPaths w localDir)
  | .config .template => .printed w.disk (.line Settings.template)
  | .info => about w b s localDir
  | .completion _ =>
    .failed w.disk (.usage "completion is handled before settings are loaded")

/-- The script that completes the names of commands in a shell. -/
def completionScript (shell : String) : String :=
  let names := " ".intercalate (grammar.commands.map Prod.fst)
  match shell with
  | "fish" => "complete -c astviz -n __fish_use_subcommand -xa \"" ++ names ++ "\"\n"
  | "zsh" => "#compdef astviz\ncompadd " ++ names ++ "\n"
  | "bash" => "complete -o default -W \"" ++ names ++ "\" astviz\n"
  | _ => "# " ++ names ++ "\n"

/-- The directory that a relative path starts from. -/
def workingDirectory (d : Disk) : String :=
  "/" ++ "/".intercalate d.cwd

/-- The directory in which the local settings file is looked for. -/
def localDirectory (w : World) (i : Invocation) : Except Failure String :=
  match i.configDir with
  | none => .ok (workingDirectory w.disk)
  | some dir =>
    if w.disk.isDirectory dir then .ok dir
    else .error (.badArguments ("not a directory: " ++ dir))

/-- Carries out an invocation with the layout program that the settings name. -/
def run (w : World) (launch : Layout.Launcher) (i : Invocation) : Outcome :=
  match i.command with
  | none => .failed w.disk (.usage "no command given, see --help")
  | some (.completion shell) => .printed w.disk (.text (completionScript shell))
  | some command =>
    match localDirectory w i with
    | .error f => .failed w.disk f
    | .ok dir =>
      match Settings.load w.environment w.disk (some dir) with
      | .error f => .failed w.disk f
      | .ok s => execute w (Layout.ofProgram launch s.dotProgram) s dir command

end AstCompare.CommandLine
