import AstCompare.Text.Lines

/-!
# Dumps

A dump is a text that holds two trees, the one before and the one after optimisation. Each tree
stands under a marker line of its own. A marker is recognised only as a whole line, the lines before
the first marker are ignored, and the second marker is looked for after the first one only.

## Main definitions

* `Section`: which of the two trees.
* `Dump`: the lines that belong to each section.
* `Dump.ofText`: the sections of a text, or the marker that is missing.
-/

namespace AstCompare

/-- The two sections of a dump: the tree before and the tree after optimisation. -/
inductive Section where
  | before
  | after
  deriving DecidableEq, Repr

namespace Section

/-- The name under which a section is asked for. -/
def name : Section → String
  | before => "original"
  | after => "optimized"

/-- The line that opens a section. -/
def marker : Section → String
  | before => "Original AST:"
  | after => "Optimized AST:"

/-- The section of that name. -/
def ofName? (s : String) : Option Section :=
  if s = before.name then some before
  else if s = after.name then some after
  else none

/-- The section that is meant when none is named. -/
def standard : Section := before

/-- The complaint about a name that no section has. -/
def unknownMessage (s : String) : String :=
  "unknown section: " ++ s

end Section

/-- The lines of the two sections of a dump. -/
structure Dump where
  before : List String
  after : List String
  deriving DecidableEq, Repr

namespace Dump

/-- The lines of one section. -/
def lines (d : Dump) : Section → List String
  | .before => d.before
  | .after => d.after

/-- The lines before and after the first line that equals the marker. -/
def cutAt (marker : String) (ls : List String) : Option (List String × List String) :=
  match ls.span (· != marker) with
  | (front, _ :: rest) => some (front, rest)
  | (_, []) => none

/-- The sections of a list of lines, or the first section whose marker is missing. -/
def ofLines (ls : List String) : Except Section Dump :=
  match cutAt Section.before.marker ls with
  | none => .error .before
  | some (_, rest) =>
    match cutAt Section.after.marker rest with
    | none => .error .after
    | some (before, after) => .ok ⟨before, after⟩

/-- The sections of a text, or the first section whose marker is missing. -/
def ofText (s : String) : Except Section Dump :=
  ofLines (Text.lines s)

end Dump

end AstCompare
