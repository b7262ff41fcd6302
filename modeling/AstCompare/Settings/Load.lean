import AstCompare.Disk.Files
import AstCompare.Settings.Expansion
import AstCompare.Settings.Toml
import AstCompare.Settings.Variables

/-!
# Loading the settings

Four layers are laid over each other: the defaults, the file of the user, the file of a directory,
and the variables of the environment. A file that is not there is no layer; one that is there and
cannot be read ends the loading. At last the two fields that hold paths are expanded.

## Main definitions

* `globalPath?`, `localPath`: where the two files are.
* `load`: the settings of a run.
-/

namespace AstCompare.Settings

/-- The directory for settings of the user: a variable names it by an absolute path, or else it is
in the home directory. Without a home directory there is none. -/
def configDir? (e : Environment) : Option String := do
  let home ← e.home?
  match e.get? "XDG_CONFIG_HOME" with
  | some dir => if Path.isAbsolute dir then some dir else some (Path.join home ".config")
  | none => some (Path.join home ".config")

/-- The settings file of the user. -/
def globalPath? (e : Environment) : Option String :=
  (configDir? e).map fun dir => Path.join (Path.join dir "astviz") "astviz.toml"

/-- The settings file of a directory. -/
def localPath (dir : String) : String :=
  Path.join dir ".astviz.toml"

/-- The layer in a settings file. -/
def readLayer (d : Disk) (path : String) : Except Failure Layer :=
  match d.readText path with
  | .error e => .error (.settings ("read " ++ path ++ ": " ++ e.message))
  | .ok text =>
    match Layer.ofToml? text with
    | some l => .ok l
    | none => .error (.settings ("parse " ++ path ++ ": TOML parse error"))

/-- The layer in a settings file, which is empty if there is none. -/
def fileLayer (d : Disk) : Option String → Except Failure Layer
  | none => .ok {}
  | some path => if d.hasEntry path then readLayer d path else .ok {}

/-- The settings with the paths in them expanded. -/
def expandPaths (e : Environment) (s : Settings) : Settings :=
  { s with outputDir := expand e s.outputDir, dotProgram := expand e s.dotProgram }

/-- The settings of a run, with a settings file in `dir` if one is named. -/
def load (e : Environment) (d : Disk) (dir : Option String) : Except Failure Settings := do
  let globalLayer ← fileLayer d (globalPath? e)
  let localLayer ← fileLayer d (dir.map localPath)
  let fromVariables ← Variables.layer e
  return expandPaths e (((overlay {} globalLayer).overlay localLayer).overlay fromVariables)

end AstCompare.Settings
