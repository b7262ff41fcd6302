import AstCompare.Highlight

/-!
# Settings

Settings come in layers: a layer gives values to some of the fields, and a later layer wins field by
field. The two colors are fields of their own, so a layer may give one of them and not the other.

## Main definitions

* `Settings`: all fields, with their defaults.
* `Layer`: some of the fields.
* `Settings.overlay`: the settings with a layer laid over them.
-/

namespace AstCompare

/-- Everything that can be set. -/
structure Settings where
  /-- The directory that receives the pictures. -/
  outputDir : String := "."
  /-- The layout program. -/
  dotProgram : String := "dot"
  /-- Pictures get the same names in every run. -/
  fixedNames : Bool := false
  /-- The graph texts are kept beside the pictures. -/
  keepDot : Bool := false
  /-- One level of indentation of a printed tree. -/
  indentUnit : String := "  "
  /-- The fill colors. -/
  colors : Palette := {}
  deriving DecidableEq, Repr

namespace Settings

/-- The values that a source of settings gives. -/
structure Layer where
  outputDir : Option String := none
  dotProgram : Option String := none
  fixedNames : Option Bool := none
  keepDot : Option Bool := none
  indentUnit : Option String := none
  unchanged : Option String := none
  changed : Option String := none
  deriving DecidableEq, Repr

/-- The settings with every field that the layer gives replaced. -/
def overlay (s : Settings) (l : Layer) : Settings where
  outputDir := l.outputDir.getD s.outputDir
  dotProgram := l.dotProgram.getD s.dotProgram
  fixedNames := l.fixedNames.getD s.fixedNames
  keepDot := l.keepDot.getD s.keepDot
  indentUnit := l.indentUnit.getD s.indentUnit
  colors := ⟨l.unchanged.getD s.colors.unchanged, l.changed.getD s.colors.changed⟩

end Settings

end AstCompare
