import AstCompare.Settings.Basic
import AstCompare.Toml.Reader

/-!
# Settings files

Settings are written and read as TOML documents. What is written gives all fields and reads back as
the same settings. What is read may leave out fields and hold others, which are passed over; a field
of the wrong type makes the whole file unreadable.

The colors are a table of their own. A list in its place gives them by position, and a date in its
place gives none of them.

## Main definitions

* `Settings.toToml`: the settings as a document.
* `Settings.Layer.ofToml?`: the fields that a document gives.
* `Settings.template`: a document in which every field is explained and none is given.
-/

namespace AstCompare.Settings

/-! ### Writing -/

/-- A line that gives a text. -/
def textLine (name value : String) : String :=
  name ++ " = " ++ String.ofList (Toml.write value.toList) ++ "\n"

/-- A line that gives a truth value. -/
def flagLine (name : String) (value : Bool) : String :=
  name ++ " = " ++ (if value then "true" else "false") ++ "\n"

/-- The settings as a document. -/
def toToml (s : Settings) : String :=
  textLine "output_dir" s.outputDir ++ textLine "dot_program" s.dotProgram ++
    flagLine "fixed_names" s.fixedNames ++ flagLine "keep_dot" s.keepDot ++
    textLine "indent_unit" s.indentUnit ++ "\n[colors]\n" ++
    textLine "unchanged" s.colors.unchanged ++ textLine "changed" s.colors.changed

/-- A document in which every field is explained and none is given. -/
def template : String :=
  "# astviz configuration\n" ++
  "#\n" ++
  "# Locations (by precedence, lowest to highest):\n" ++
  "#   Global: ~/.config/astviz/astviz.toml\n" ++
  "#   Local:  ./.astviz.toml\n" ++
  "#   Env:    ASTVIZ_* environment variables (ASTVIZ_COLORS__CHANGED=...)\n" ++
  "\n" ++
  "# Directory receiving the rendered images\n" ++
  "# output_dir = \".\"\n" ++
  "\n" ++
  "# Graphviz layout program\n" ++
  "# dot_program = \"dot\"\n" ++
  "\n" ++
  "# Write original_ast.png, optimized_ast_highlighted.png and ast_comparison.png\n" ++
  "# without a per-run suffix. Concurrent runs into one directory then overwrite\n" ++
  "# each other.\n" ++
  "# fixed_names = false\n" ++
  "\n" ++
  "# Keep the generated .dot sources next to the images\n" ++
  "# keep_dot = false\n" ++
  "\n" ++
  "# Indentation unit used by `astviz tree --plain`\n" ++
  "# indent_unit = \"  \"\n" ++
  "\n" ++
  "[colors]\n" ++
  "# unchanged = \"lightgray\"\n" ++
  "# changed = \"lightgreen\"\n"

/-! ### Reading -/

namespace Layer

/-- A text, if the value is there; nothing at all if it is something else. -/
def text? : Option Toml.Value → Option (Option String)
  | none => some none
  | some (.string s) => some (some s)
  | some _ => none

/-- A truth value, if the value is there; nothing at all if it is something else. -/
def flag? : Option Toml.Value → Option (Option Bool)
  | none => some none
  | some (.boolean b) => some (some b)
  | some _ => none

/-- The two colors, from a table or by position. -/
def colors? : Option Toml.Value → Option (Option String × Option String)
  | none => some (none, none)
  | some (.table entries) => do
    let unchanged ← text? (entries.lookup "unchanged")
    let changed ← text? (entries.lookup "changed")
    return (unchanged, changed)
  | some (.array items) => do
    let unchanged ← text? items[0]?
    let changed ← text? items[1]?
    return (unchanged, changed)
  | some (.dateTime _) => some (none, none)
  | some _ => none

/-- The fields that a table gives, or nothing if one has the wrong type. -/
def ofValue? (v : Toml.Value) : Option Layer := do
  let outputDir ← text? (v.get? "output_dir")
  let dotProgram ← text? (v.get? "dot_program")
  let fixedNames ← flag? (v.get? "fixed_names")
  let keepDot ← flag? (v.get? "keep_dot")
  let indentUnit ← text? (v.get? "indent_unit")
  let (unchanged, changed) ← colors? (v.get? "colors")
  return { outputDir, dotProgram, fixedNames, keepDot, indentUnit, unchanged, changed }

/-- The fields that a document gives, or nothing if it cannot be read. -/
def ofToml? (s : String) : Option Layer :=
  (Toml.readDocument s).bind ofValue?

end Layer

/-- The settings that a document describes, fields that it does not give having their defaults. -/
def ofToml? (s : String) : Option Settings :=
  (Layer.ofToml? s).map fun l => Settings.overlay {} l

end AstCompare.Settings
