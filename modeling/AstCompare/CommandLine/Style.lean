import AstCompare.Environment

/-!
# Colored text

A text is colored by a control sequence in front of it and one behind it that resets everything.
Where a colored text holds such a reset itself, the opening sequence is repeated after it, so that
coloring can nest. Without colors every text stays as it is.

## Main definitions

* `Ink`: color and weight.
* `Ink.paint`: a text in an ink.
* `colorsWanted`: whether colors are printed at all.
-/

namespace AstCompare.CommandLine

/-- The colors in use. -/
inductive Color where
  | red
  | green
  | yellow
  | cyan
  deriving DecidableEq, Repr

/-- The number of a color in a control sequence. -/
def Color.code : Color → String
  | red => "31"
  | green => "32"
  | yellow => "33"
  | cyan => "36"

/-- Color and weight of a text. -/
structure Ink where
  bold : Bool := false
  dimmed : Bool := false
  color : Option Color := none
  deriving DecidableEq, Repr

namespace Ink

/-- The numbers of an ink, the weight first. -/
def codes (i : Ink) : List String :=
  (if i.bold then ["1"] else []) ++ (if i.dimmed then ["2"] else []) ++
    i.color.toList.map Color.code

/-- The control sequence with the given numbers. -/
def sequence (codes : List String) : List Char :=
  '\x1b' :: '[' :: (";".intercalate codes).toList ++ ['m']

/-- The text with the opening sequence repeated after every reset in it. -/
def reopen (opening : List Char) : List Char → List Char
  | '\x1b' :: '[' :: '0' :: 'm' :: cs =>
    '\x1b' :: '[' :: '0' :: 'm' :: (opening ++ reopen opening cs)
  | c :: cs => c :: reopen opening cs
  | [] => []

/-- A text in an ink, if colors are on. -/
def paint (colors : Bool) (i : Ink) (s : String) : String :=
  if colors && !i.codes.isEmpty then
    let opening := sequence i.codes
    String.ofList (opening ++ reopen opening s.toList ++ sequence ["0"])
  else s

/-- Plain green. -/
def green : Ink := { color := some .green }

/-- Plain red. -/
def red : Ink := { color := some .red }

/-- Plain yellow. -/
def yellow : Ink := { color := some .yellow }

/-- Bold red. -/
def boldRed : Ink := { bold := true, color := some .red }

/-- Bold green. -/
def boldGreen : Ink := { bold := true, color := some .green }

/-- Bold cyan. -/
def boldCyan : Ink := { bold := true, color := some .cyan }

/-- Dimmed. -/
def faint : Ink := { dimmed := true }

end Ink

/-- A variable is set to something other than zero. -/
def switchedOn (e : Environment) (name : String) : Option Bool :=
  (e.get? name).map (· != "0")

/-- Colors are printed on a terminal, unless the environment asks for them everywhere or
nowhere. -/
def colorsWanted (e : Environment) (terminal : Bool) : Bool :=
  switchedOn e "CLICOLOR_FORCE" == some true ||
    ((e.get? "NO_COLOR").isNone && (switchedOn e "CLICOLOR").getD true && terminal)

end AstCompare.CommandLine
