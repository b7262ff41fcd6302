import AstCompare.Text.Blank
import AstCompare.Tree.Basic

/-!
# Trees written by indentation

Each node is one line. A line belongs under the nearest earlier line that is indented less; how much
less does not matter, and neither does the kind of blank used. Lines of blanks only are skipped.

Reading keeps the nodes that may still get children on a stack, innermost first. A line closes every
open node that is indented as much as the line or more, and is then opened itself. Numbers are given
out in line order by a counter that outlives the call, so that the trees of one pass never share a
number; a call that fails keeps the numbers it has given out.

## Main definitions

* `Tree.toIndented`: the lines of a tree, each level one unit further in.
* `Reader.read`: the tree of a list of lines, and the counter afterwards.
* `TreeError`: why a list of lines is not one tree.
-/

namespace AstCompare

/-! ### Writing -/

namespace Tree

/-- The number of nodes that a list of pending trees holds. -/
def levelledSize (stack : List (Nat × Tree)) : Nat :=
  Rose.forestSize (stack.map Prod.snd)

/-- The loop of `toIndented`: pending trees with their levels, and the text so far. -/
def toIndentedFrom (unit : String) (stack : List (Nat × Tree)) (out : String) : String :=
  match stack with
  | [] => out
  | (level, t) :: rest =>
    toIndentedFrom unit (t.children.map (fun c => (level + 1, c)) ++ rest)
      (out ++ String.join (List.replicate level unit) ++ t.label ++ "\n")
termination_by levelledSize stack
decreasing_by
  simp [levelledSize, Rose.forestSize_append, Rose.forestSize, Rose.size_eq t, Function.comp_def]

/-- One line per node in pre-order: the unit once per level, the label, a line feed. -/
def toIndented (unit : String) (t : Tree) : String :=
  toIndentedFrom unit [(0, t)] ""

end Tree

/-! ### Reading -/

/-- Why a list of lines is not the text of one tree. -/
inductive TreeError where
  /-- Every line is blank. -/
  | noLines
  /-- The line with this number, counted from one, stands beside the root. -/
  | secondRoot (label : String) (line : Nat) (root : String)
  deriving DecidableEq, Repr

/-- The wording of the error. -/
def TreeError.reason : TreeError → String
  | noLines => "no tree lines"
  | secondRoot label line root =>
    "second top-level node '" ++ label ++ "' at line " ++ toString line ++
      " (root is '" ++ root ++ "')"

/-- A node that may still get children: its indentation, its value, and the children read so far,
the latest first. -/
structure OpenNode where
  depth : Nat
  node : Node
  children : List Tree

namespace OpenNode

/-- The finished tree. -/
def close (n : OpenNode) : Tree :=
  .node n.node n.children.reverse

/-- One more child, after those read so far. -/
def adopt (n : OpenNode) (t : Tree) : OpenNode :=
  { n with children := t :: n.children }

end OpenNode

/-- What reading has produced so far: the next free number, the open nodes from the innermost
outwards, and the root once it is closed. -/
structure Reading where
  nextId : Nat
  stack : List OpenNode
  root : Option Tree

namespace Reading

/-- Closes every open node that is indented by `depth` or more. -/
def closeTo (depth : Nat) (stack : List OpenNode) (root : Option Tree) :
    List OpenNode × Option Tree :=
  match stack with
  | [] => ([], root)
  | [n] => if depth ≤ n.depth then ([], some n.close) else ([n], root)
  | n :: p :: rest =>
    if depth ≤ n.depth then closeTo depth (p.adopt n.close :: rest) root
    else (n :: p :: rest, root)
termination_by stack.length

/-- Takes in one line: a blank one changes nothing, any other opens a node, unless a finished root
would get a neighbour. -/
def step (r : Reading) (line : Nat) (text : String) : Except TreeError Reading :=
  let label := Text.trimmed text
  if label.isEmpty then .ok r
  else
    let depth := Text.indentation text
    match closeTo depth r.stack r.root with
    | ([], some root) => .error (.secondRoot label line root.label)
    | (stack, root) => .ok ⟨r.nextId + 1, ⟨depth, ⟨r.nextId, label⟩, []⟩ :: stack, root⟩

/-- Takes in the lines one after the other, counting from `line`, up to the first error. -/
def feed (r : Reading) (line : Nat) : List String → Reading × Option TreeError
  | [] => (r, none)
  | text :: rest =>
    match r.step line text with
    | .error e => (r, some e)
    | .ok r' => feed r' (line + 1) rest

/-- Closes all open nodes; the outermost is the root. -/
def finish (r : Reading) : Except TreeError Tree :=
  match closeTo 0 r.stack r.root with
  | (_, some t) => .ok t
  | (_, none) => .error .noLines

end Reading

/-- The counter that numbers nodes across the trees of one pass. -/
structure Reader where
  nextId : Nat := 0
  deriving DecidableEq, Repr

/-- The tree of a list of lines, or why there is none, and the counter afterwards. -/
def Reader.read (r : Reader) (lines : List String) : Except TreeError Tree × Reader :=
  match Reading.feed ⟨r.nextId, [], none⟩ 1 lines with
  | (reading, some e) => (.error e, ⟨reading.nextId⟩)
  | (reading, none) => (reading.finish, ⟨reading.nextId⟩)

end AstCompare
