import AstCompare.CommandLine.Commands

/-!
# The paths that a run can touch

Whoever runs the program on a part of a disk only has to know which part that is. The paths that are
read are known from the command line and the environment; those that are written are known once the
settings have been read.

## Main definitions

* `Invocation.sources`: the paths that are read.
* `Invocation.targets`: the paths that are written or removed.
-/

namespace AstCompare

/-- The output directory of a comparison and all files that it may write there. -/
def Comparison.Job.paths (j : Comparison.Job) : List String :=
  [j.outputDir, j.artifacts.before, j.artifacts.after, j.artifacts.comparison, j.dotPath .before,
    j.dotPath .after]

namespace CommandLine

/-- The dump that a command reads. -/
def Command.input? : Command → Option String
  | compare input _ _ | diff input | tree input _ _ | dot input _ => some input
  | config _ | info | completion _ => none

/-- The dump and the settings files. -/
def Invocation.sources (w : World) (i : Invocation) : List String :=
  let dir := i.configDir.getD (workingDirectory w.disk)
  (i.command.bind Command.input?).toList ++ (Settings.globalPath? w.environment).toList ++
    [dir, Settings.localPath dir]

/-- The files of a comparison; every other command leaves the disk alone. -/
def Invocation.targets (w : World) (i : Invocation) : List String :=
  match i.command, Settings.load w.environment w.disk (some (i.configDir.getD ".")) with
  | some (.compare input outputDir fixedNames), .ok s =>
    (comparisonJob w s input outputDir fixedNames).paths
  | _, _ => []

end CommandLine

end AstCompare
