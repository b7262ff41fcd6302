import AstCompare.Highlight

/-!
# Graphs for the layout program

A graph lists nodes and directed edges and is written in the DOT language. The graph of a tree has
one node per tree node and one edge from each node to each of its children, both in pre-order.

Labels and colors are arbitrary texts. They stand between quotes, and within the quotes a backslash
and a quote are preceded by a backslash; nothing else is changed, so a line feed stands as it is.

## Main definitions

* `Graph`, `GraphNode`: what is written.
* `Graph.ofTree`: the graph of a tree under a coloring and a palette.
* `Graph.legalName`: a name that can stand after `digraph` without quotes.
* `Graph.text`: the DOT text.
-/

namespace AstCompare

/-- A node of a graph. -/
structure GraphNode where
  id : Nat
  label : String
  status : Status
  fill : String
  deriving DecidableEq, Repr

/-- A named list of nodes and edges. -/
structure Graph where
  name : String
  nodes : List GraphNode
  edges : List (Nat × Nat)
  deriving DecidableEq, Repr

namespace Graph

/-- A letter, digit or underscore of ASCII. -/
def isNameChar (c : Char) : Bool :=
  c.isAlphanum || c == '_'

/-- Every other character becomes an underscore, and a name that is empty or starts with a digit
gets a letter in front. -/
def legalName (name : String) : String :=
  let cs := name.toList.map fun c => if isNameChar c then c else '_'
  match cs with
  | [] => "G"
  | c :: _ => if c.isDigit then String.ofList ('G' :: cs) else String.ofList cs

/-- The graph of a tree. -/
def ofTree (t : Tree) (name : String) (coloring : Coloring) (palette : Palette) : Graph where
  name := legalName name
  nodes := t.walk.map fun (_, sub) =>
    let status := coloring.status sub.value.label
    ⟨sub.value.id, sub.value.label, status, palette.fill status⟩
  edges := t.walk.filterMap fun (parent, sub) => parent.map fun p => (p.id, sub.value.id)

/-- The number of nodes whose label is new. -/
def changedCount (g : Graph) : Nat :=
  (g.nodes.filter fun n => n.status == .changed).length

/-- The first node with that number. -/
def find? (g : Graph) (id : Nat) : Option GraphNode :=
  g.nodes.find? fun n => n.id == id

/-- The text between quotes: a backslash stands before every backslash and quote. -/
def escape : List Char → List Char
  | [] => []
  | c :: cs => if c = '\\' ∨ c = '"' then '\\' :: c :: escape cs else c :: escape cs

/-- A text in quotes. -/
def quoted (s : String) : String :=
  String.ofList ('"' :: escape s.toList ++ ['"'])

/-- The line that declares a node. -/
def nodeLine (n : GraphNode) : String :=
  "    " ++ Node.name n.id ++ " [label=" ++ quoted n.label ++ ", fillcolor=" ++ quoted n.fill ++
    "];\n"

/-- The line that declares an edge. -/
def edgeLine (e : Nat × Nat) : String :=
  "    " ++ Node.name e.1 ++ " -> " ++ Node.name e.2 ++ ";\n"

/-- The DOT text of a graph. -/
def text (g : Graph) : String :=
  "digraph " ++ g.name ++ " \x7b\n    node [shape=box, style=filled];\n" ++
    String.join (g.nodes.map nodeLine) ++ String.join (g.edges.map edgeLine) ++ "\x7d\n"

end Graph

end AstCompare
