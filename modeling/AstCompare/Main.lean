import AstCompare.CommandLine.Footprint
import AstCompare.CommandLine.Program
import AstCompare.Shell.Installation
import AstCompare.Shell.Launch

/-!
# The executable

The program runs on a copy of that part of the file system which its command line can touch.
Afterwards its output is printed and what it changed on the copy is carried over. Files are copied
as bytes. A layout program is run only if it is a script, or one of the programs that every system
has.
-/

namespace AstCompare

/-- The path, and the directories above it from the outermost on. -/
def withAncestors (path : String) : List String :=
  (List.range ((Path.parts path).length + 1)).filterMap fun n =>
    match (Path.parts path).take n with
    | [] => none
    | parts => some ((if Path.isAbsolute path then "/" else "") ++ "/".intercalate parts)

/-- Copies what stands at a path and above it. -/
def copyPath (d : Disk) (path : String) : IO Disk := do
  let here ← IO.currentDir
  (withAncestors path).foldlM (fun d (p : String) => do
    let file := here / p
    if ← file.isDir then return d.place p .directory
    if ← file.pathExists then
      if ((d.locate p).toOption.bind d.get?).isSome then return d
      try return d.place p (.file (.bytes (← IO.FS.readBinFile file)) true)
      catch _ => return d
    return d) d

/-- Carries over the changes between two states of the copy. -/
def applyChanges (old new : Disk) : IO Unit := do
  let path (l : Location) : String := "/" ++ "/".intercalate l
  for (l, _) in old.entries do
    if (new.get? l).isNone then IO.FS.removeFile (path l)
  for (l, e) in new.entries.reverse do
    match e with
    | .directory _ => if (old.get? l).isNone then IO.FS.createDirAll (path l)
    | .file _ c _ =>
      let isNew := match old.get? l with
        | some (.file _ b _) => b != c
        | _ => true
      if isNew then IO.FS.writeBinFile (path l) c.toBytes
    | .link _ | .device _ | .pipe _ _ => pure ()

/-- The variables that the process was started with. -/
def readEnvironment : IO Environment := do
  try
    let block ← IO.FS.readBinFile "/proc/self/environ"
    let texts := (Text.lossyText block).splitOn "\x00"
    return ⟨texts.filterMap fun s =>
      match s.splitOn "=" with
      | name :: value :: more => some (name, "=".intercalate (value :: more))
      | _ => none, none⟩
  catch _ => return {}

end AstCompare

open AstCompare in
/-- Runs the program on the file system. -/
def main (words : List String) : IO UInt32 := do
  let environment ← readEnvironment
  let here := toString (← IO.currentDir)
  let digits ← (List.range Naming.runIdLength).mapM fun _ => IO.rand 0 15
  let stdout ← IO.getStdout
  let start : CommandLine.World :=
    { environment
      disk := ← copyPath { Shell.bareSystem with cwd := Path.parts here } here
      colors := CommandLine.colorsWanted environment (← stdout.isTty)
      runId := Naming.runIdOfDigits digits }
  let world ← match CommandLine.Invocation.ofWords words with
    | .error _ => pure start
    | .ok i =>
      let disk ← (i.sources start).foldlM copyPath start.disk
      let disk ← (i.targets { start with disk }).foldlM copyPath disk
      pure { start with disk }
  let ended := CommandLine.program world (Shell.launch environment) words
  applyChanges world.disk ended.disk
  stdout.putStr ended.output.stdout
  (← IO.getStderr).putStr ended.output.stderr
  return .ofNat ended.exit
