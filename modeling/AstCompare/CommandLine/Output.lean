import AstCompare.CommandLine.Style
import AstCompare.Comparison.Run

/-!
# What commands print

## Main definitions

* `Output`: the texts on the two output streams.
* `Output.line`, `Output.warning`, …: the kinds of lines.
* `Output.report`, `Output.labelChanges`: what is told about a comparison.
-/

namespace AstCompare.CommandLine

/-- The texts printed on the two output streams. -/
structure Output where
  stdout : String := ""
  stderr : String := ""
  deriving DecidableEq, Repr

namespace Output

/-- One output after the other. -/
def append (a b : Output) : Output :=
  ⟨a.stdout ++ b.stdout, a.stderr ++ b.stderr⟩

instance : Append Output := ⟨append⟩

/-- Several outputs one after the other. -/
def concat (os : List Output) : Output :=
  os.foldl (· ++ ·) {}

/-- A text as it is. -/
def text (s : String) : Output :=
  { stdout := s }

/-- A line. -/
def line (s : String) : Output :=
  text (s ++ "\n")

/-- An indented line. -/
def detail (s : String) : Output :=
  line ("  " ++ s)

/-- A line with a label. -/
def labelled (colors : Bool) (label s : String) : Output :=
  line (Ink.green.paint colors label ++ ": " ++ s)

/-- A line that tells of a success. -/
def success (colors : Bool) (s : String) : Output :=
  line (Ink.green.paint colors "✓" ++ " " ++ s)

/-- A heading. -/
def header (colors : Bool) (s : String) : Output :=
  line (Ink.boldCyan.paint colors s)

/-- A warning. -/
def warning (colors : Bool) (s : String) : Output :=
  { stderr := Ink.yellow.paint colors "Warning" ++ ": " ++ s ++ "\n" }

/-- The line that tells of a failure. -/
def failure (colors : Bool) (f : Failure) : Output :=
  { stderr := Ink.boldRed.paint colors "error" ++ ": " ++ f.message ++ "\n" }

/-- A list of labels, each behind a mark. -/
def labels (colors : Bool) (ink : Ink) (mark : String) (s : LabelSet) : Output :=
  if s.labels.isEmpty then detail "none"
  else concat (s.labels.map fun l => detail (ink.paint colors mark ++ " " ++ l))

/-- The labels that came and those that went. -/
def labelChanges (colors : Bool) (added removed : LabelSet) : Output :=
  header colors "Added labels (highlighted)" ++ labels colors .green "+" added ++
    header colors "Removed labels (not visible in images)" ++ labels colors .red "-" removed

/-- What is told about a comparison. -/
def report (colors : Bool) (r : Comparison.Report) : Output :=
  concat (r.naming.runId.toList.map (labelled colors "Run")) ++
    labelled colors "Original" r.artifacts.before ++
    labelled colors "Optimized" r.artifacts.after ++
    success colors ("AST comparison image saved as: " ++ r.artifacts.comparison) ++
    detail (toString r.changed ++ " of " ++ toString r.nodesAfter ++
      " optimized nodes highlighted (original: " ++ toString r.nodesBefore ++ " nodes)") ++
    labelChanges colors r.added r.removed

end Output

end AstCompare.CommandLine
