import AstCompare.Graph.Basic
import Mathlib.Data.List.Basic

/-!
# Reading graph texts

The text of a graph is read back by a small reader of the language that it is written in. The reader
knows words, quoted texts and a few marks, and nothing about how the text was made: a quoted text
ends at the first quote that is not escaped, and inside it a backslash stands before a character
that is meant as it is. Statements end at semicolons that stand outside quotes.

Labels and colors are arbitrary texts. They may hold quotes, runs of backslashes, line feeds and
whole statements, and still every graph text is read back as the graph that it was made from.

## How a text is taken apart

`Dot.Lexed cs ts` says that the characters `cs` are the tokens `ts`, whatever follows. A quoted text
has this property by itself; a word has it only together with a character that ends it. The tokens
of a line are put together from such pieces.

## Main definitions

* `Dot.tokens`, `Dot.read?`: the reader.
* `Dot.Document`: what is read.

## Main results

* `Dot.lexed_quoted`: a quoted text is one token, whatever it holds.
* `Dot.read?_text`: a graph text is read as the statements that it was made of.
* `Graph.read?_text_ofTree`: the text of the graph of a tree is unambiguous.
-/

namespace AstCompare

namespace Dot

/-! ## The reader -/

/-- The parts of a text. -/
inductive Token where
  | word (s : String)
  | quoted (s : String)
  | mark (c : Char)
  deriving DecidableEq, Repr

/-- A character that only separates. -/
def isGap (c : Char) : Bool :=
  c == ' ' || c == '\n' || c == '\t' || c == '\r'

/-- A character that is a token by itself. -/
def isMark (c : Char) : Bool :=
  ['{', '}', '[', ']', '=', ',', ';', '-', '>'].contains c

/-- Where in a text the reader is. What has been read of a word or of a quoted text stands latest
first. -/
inductive Mode where
  | outside
  | word (read : List Char)
  | quote (read : List Char)
  /-- Right after a backslash in a quoted text. -/
  | escaped (read : List Char)

/-- What a character does outside words and quotes. -/
def start (c : Char) : Option (Mode × List Token) :=
  if isGap c then some (.outside, [])
  else if c = '"' then some (.quote [], [])
  else if Graph.isNameChar c then some (.word [c], [])
  else if isMark c then some (.outside, [.mark c])
  else none

/-- The tokens of a text. -/
def tokens : Mode → List Char → Option (List Token)
  | .outside, [] => some []
  | .word read, [] => some [.word (String.ofList read.reverse)]
  | .quote _, [] | .escaped _, [] => none
  | .outside, c :: cs => (start c).bind fun (m, ts) => (tokens m cs).map (ts ++ ·)
  | .word read, c :: cs =>
    if Graph.isNameChar c then tokens (.word (c :: read)) cs
    else
      (start c).bind fun (m, ts) =>
        (tokens m cs).map fun rest => .word (String.ofList read.reverse) :: (ts ++ rest)
  | .quote read, c :: cs =>
    if c = '"' then (tokens .outside cs).map (.quoted (String.ofList read.reverse) :: ·)
    else if c = '\\' then tokens (.escaped read) cs
    else tokens (.quote (c :: read)) cs
  | .escaped read, c :: cs => tokens (.quote (c :: read)) cs

/-- What a token says as a value. -/
def Token.value? : Token → Option String
  | word s | quoted s => some s
  | mark _ => none

/-- The attributes up to the closing bracket. -/
def attributes : List Token → Option (List (String × String))
  | [.word key, .mark '=', v, .mark ']'] => v.value?.map fun s => [(key, s)]
  | .word key :: .mark '=' :: v :: .mark ',' :: rest =>
    v.value?.bind fun s => (attributes rest).map ((key, s) :: ·)
  | _ => none

/-- The number of a node, from the word that refers to it. -/
def nodeId? (w : String) : Option Nat :=
  match w.toList with
  | 'n' :: c :: cs =>
    if (c :: cs).all Char.isDigit then some (Nat.ofDigitChars 10 (c :: cs) 0) else none
  | _ => none

/-- A statement of a graph text. -/
inductive Statement where
  | defaults (attributes : List (String × String))
  | node (id : Nat) (attributes : List (String × String))
  | edge (parent child : Nat)
  deriving DecidableEq, Repr

namespace Statement

/-- The node of a statement, with its label and its fill color. -/
def node? : Statement → Option (Nat × String × String)
  | node id as =>
    (as.lookup "label").bind fun label => (as.lookup "fillcolor").map fun fill => (id, label, fill)
  | _ => none

/-- The edge of a statement. -/
def edge? : Statement → Option (Nat × Nat)
  | edge p c => some (p, c)
  | _ => none

end Statement

/-- The statement that tokens are. -/
def statement? : List Token → Option Statement
  | [.word a, .mark '-', .mark '>', .word b] =>
    (nodeId? a).bind fun p => (nodeId? b).map fun c => .edge p c
  | .word w :: .mark '[' :: rest =>
    if w = "node" then (attributes rest).map .defaults
    else (nodeId? w).bind fun id => (attributes rest).map fun as => .node id as
  | _ => none

/-- The statements up to the brace that closes the text. The tokens of the present statement stand
latest first. -/
def statements (present : List Token) : List Token → Option (List Statement)
  | [] => none
  | [.mark '}'] => if present.isEmpty then some [] else none
  | .mark ';' :: rest =>
    (statement? present.reverse).bind fun s => (statements [] rest).map (s :: ·)
  | t :: rest => statements (t :: present) rest

/-- What a graph text says. -/
structure Document where
  name : String
  statements : List Statement
  deriving DecidableEq, Repr

namespace Document

/-- The nodes with their labels and fill colors. -/
def nodes (d : Document) : List (Nat × String × String) :=
  d.statements.filterMap Statement.node?

/-- The edges. -/
def edges (d : Document) : List (Nat × Nat) :=
  d.statements.filterMap Statement.edge?

end Document

/-- What the tokens of a text say. -/
def document? : List Token → Option Document
  | .word "digraph" :: .word name :: .mark '{' :: rest => (statements [] rest).map (⟨name, ·⟩)
  | _ => none

/-- Reads a graph text. -/
def read? (s : String) : Option Document :=
  (tokens .outside s.toList).bind document?

/-! ## One character -/

theorem tokens_outside_nil : tokens .outside [] = some [] := rfl

theorem tokens_outside_cons (c : Char) (cs : List Char) :
    tokens .outside (c :: cs) = (start c).bind fun s => (tokens s.1 cs).map (s.2 ++ ·) := rfl

/-- A word ends where something else starts. -/
theorem tokens_word_cons (read : List Char) (c : Char) (cs : List Char) :
    tokens (.word read) (c :: cs) =
      if Graph.isNameChar c then tokens (.word (c :: read)) cs
      else (tokens .outside (c :: cs)).map (.word (String.ofList read.reverse) :: ·) := by
  rw [tokens_outside_cons, Option.map_bind]
  simp only [Function.comp_def, Option.map_map]
  rfl

theorem tokens_quote_cons (read : List Char) (c : Char) (cs : List Char) :
    tokens (.quote read) (c :: cs) =
      if c = '"' then (tokens .outside cs).map (.quoted (String.ofList read.reverse) :: ·)
      else if c = '\\' then tokens (.escaped read) cs
      else tokens (.quote (c :: read)) cs := rfl

theorem tokens_escaped_cons (read : List Char) (c : Char) (cs : List Char) :
    tokens (.escaped read) (c :: cs) = tokens (.quote (c :: read)) cs := rfl

/-! ## Pieces of a text -/

/-- The characters are these tokens, whatever follows. -/
def Lexed (cs : List Char) (ts : List Token) : Prop :=
  ∀ rest, tokens .outside (cs ++ rest) = (tokens .outside rest).map (ts ++ ·)

theorem Lexed.nil : Lexed [] [] := by
  intro rest
  simp

theorem Lexed.append {cs cs' : List Char} {ts ts' : List Token} (h : Lexed cs ts)
    (h' : Lexed cs' ts') : Lexed (cs ++ cs') (ts ++ ts') := by
  intro rest
  rw [List.append_assoc, h, h', Option.map_map]
  simp [Function.comp_def]

/-- **Quoting.** A quoted text is one token, whatever it holds and whatever follows it. -/
theorem tokens_quote_escape (s read rest : List Char) :
    tokens (.quote read) (Graph.escape s ++ '"' :: rest) =
      (tokens .outside rest).map (.quoted (String.ofList (read.reverse ++ s)) :: ·) := by
  induction s generalizing read with
  | nil => simp [Graph.escape, tokens_quote_cons]
  | cons c cs ih =>
    rw [Graph.escape]
    split
    · rename_i hc
      have hstep : tokens (.quote read) ('\\' :: c :: (Graph.escape cs ++ '"' :: rest)) =
          tokens (.quote (c :: read)) (Graph.escape cs ++ '"' :: rest) := by
        simp [tokens_quote_cons, tokens_escaped_cons]
      rw [List.cons_append, List.cons_append, hstep, ih]
      simp
    · rename_i hc
      have hstep : tokens (.quote read) (c :: (Graph.escape cs ++ '"' :: rest)) =
          tokens (.quote (c :: read)) (Graph.escape cs ++ '"' :: rest) := by
        simp_all [tokens_quote_cons]
      rw [List.cons_append, hstep, ih]
      simp

theorem lexed_quoted (s : String) : Lexed (Graph.quoted s).toList [.quoted s] := by
  intro rest
  have hquoted : (Graph.quoted s).toList ++ rest =
      '"' :: (Graph.escape s.toList ++ '"' :: rest) := by
    simp [Graph.quoted]
  have hstart : ∀ cs, tokens .outside ('"' :: cs) = tokens (.quote []) cs := by
    intro cs
    simp [tokens_outside_cons, start, isGap]
  rw [hquoted, hstart, tokens_quote_escape]
  simp

theorem tokens_word (w read rest : List Char) (c : Char)
    (hw : ∀ x ∈ w, Graph.isNameChar x = true) (hc : Graph.isNameChar c = false) :
    tokens (.word read) (w ++ c :: rest) =
      (tokens .outside (c :: rest)).map (.word (String.ofList (read.reverse ++ w)) :: ·) := by
  induction w generalizing read with
  | nil => simp [tokens_word_cons, hc]
  | cons x w ih =>
    rw [List.forall_mem_cons] at hw
    have hstep : tokens (.word read) (x :: (w ++ c :: rest)) =
        tokens (.word (x :: read)) (w ++ c :: rest) := by
      rw [tokens_word_cons, if_pos hw.1]
    rw [List.cons_append, hstep, ih _ hw.2]
    simp

/-- A name character starts a word. -/
theorem start_of_isNameChar {c : Char} (hc : Graph.isNameChar c = true) :
    start c = some (.word [c], []) := by
  have hgap : isGap c = false := by
    refine Bool.eq_false_iff.mpr fun hgap => ?_
    simp only [isGap, Bool.or_eq_true, beq_iff_eq] at hgap
    obtain ((rfl | rfl) | rfl) | rfl := hgap <;> revert hc <;> decide
  have hquote : c ≠ '"' := by
    rintro rfl
    revert hc
    decide
  simp [start, hgap, hquote, hc]

/-- A word is a token as soon as it is ended by what follows. -/
theorem Lexed.word {w : String} {cs : List Char} {ts : List Token} (hne : w.toList ≠ [])
    (hw : ∀ x ∈ w.toList, Graph.isNameChar x = true)
    (hcs : cs.head?.map Graph.isNameChar = some false) (h : Lexed cs ts) :
    Lexed (w.toList ++ cs) (.word w :: ts) := by
  intro rest
  obtain ⟨x, w', hx⟩ := List.exists_cons_of_ne_nil hne
  obtain ⟨c, hhead, hc⟩ := Option.map_eq_some_iff.mp hcs
  obtain ⟨cs', rfl⟩ := List.head?_eq_some_iff.mp hhead
  rw [hx, List.forall_mem_cons] at hw
  have hstart : tokens .outside (w.toList ++ c :: cs' ++ rest) =
      tokens (.word [x]) (w' ++ c :: (cs' ++ rest)) := by
    rw [hx, List.cons_append, List.cons_append, tokens_outside_cons, start_of_isNameChar hw.1]
    simp
  have hword : String.ofList ([x].reverse ++ w') = w := by
    rw [List.reverse_singleton, List.singleton_append, ← hx, String.ofList_toList]
  have hrest := h rest
  rw [List.cons_append] at hrest
  rw [hstart, tokens_word w' [x] _ c hw.2 hc, hrest, hword, Option.map_map]
  rfl

theorem lexed_indent : Lexed "    ".toList [] := by
  intro rest
  simp [tokens_outside_cons, start, isGap]

/-! ## Lines -/

theorem isNameChar_of_isDigit {c : Char} (hc : c.isDigit = true) : Graph.isNameChar c = true := by
  simp [Graph.isNameChar, Char.isAlphanum, hc]

theorem toList_name (id : Nat) : (Node.name id).toList = 'n' :: Nat.toDigits 10 id := by
  simp [Node.name, Nat.toString_eq_repr, Nat.repr]

theorem isNameChar_of_mem_name {id : Nat} {c : Char} (hc : c ∈ (Node.name id).toList) :
    Graph.isNameChar c = true := by
  rw [toList_name, List.mem_cons] at hc
  obtain rfl | hc := hc
  · decide
  · exact isNameChar_of_isDigit (Nat.isDigit_of_mem_toDigits (by decide) (by decide) hc)

/-- The word that refers to a node is read as its number. -/
theorem nodeId?_name (id : Nat) : nodeId? (Node.name id) = some id := by
  obtain ⟨c, cs, hdigits⟩ := List.exists_cons_of_ne_nil (Nat.toDigits_ne_nil (n := id) (b := 10))
  have hall : (c :: cs).all Char.isDigit = true := by
    rw [← hdigits, List.all_eq_true]
    exact fun x hx => Nat.isDigit_of_mem_toDigits (by decide) (by decide) hx
  rw [nodeId?, toList_name, hdigits]
  simp only [hall, if_true]
  rw [← hdigits, Nat.ofDigitChars_toDigits (by decide) (by decide)]

/-- The word that refers to a node, ended by what follows. -/
theorem Lexed.name {id : Nat} {cs : List Char} {ts : List Token}
    (hcs : cs.head?.map Graph.isNameChar = some false) (h : Lexed cs ts) :
    Lexed ((Node.name id).toList ++ cs) (.word (Node.name id) :: ts) :=
  .word (by simp [toList_name]) (fun _ => isNameChar_of_mem_name) hcs h

/-- The tokens of the line of a node. -/
def nodeTokens (n : GraphNode) : List Token :=
  [.word (Node.name n.id), .mark '[', .word "label", .mark '=', .quoted n.label, .mark ',',
    .word "fillcolor", .mark '=', .quoted n.fill, .mark ']', .mark ';']

/-- The tokens of the line of an edge. -/
def edgeTokens (e : Nat × Nat) : List Token :=
  [.word (Node.name e.1), .mark '-', .mark '>', .word (Node.name e.2), .mark ';']

theorem lexed_nodeLine (n : GraphNode) : Lexed (Graph.nodeLine n).toList (nodeTokens n) := by
  have hlabel : Lexed " [label=".toList [.mark '[', .word "label", .mark '='] := by
    intro rest
    simp [tokens_outside_cons, tokens_word_cons, start, isGap, isMark, Graph.isNameChar,
      Function.comp_def]
  have hfill : Lexed ", fillcolor=".toList [.mark ',', .word "fillcolor", .mark '='] := by
    intro rest
    simp [tokens_outside_cons, tokens_word_cons, start, isGap, isMark, Graph.isNameChar,
      Function.comp_def]
  have hend : Lexed "];\n".toList [.mark ']', .mark ';'] := by
    intro rest
    simp [tokens_outside_cons, start, isGap, isMark, Graph.isNameChar, Function.comp_def]
  have hname : Lexed ((Node.name n.id).toList ++ " [label=".toList)
      (.word (Node.name n.id) :: [.mark '[', .word "label", .mark '=']) :=
    .name (by decide) hlabel
  have hline := ((lexed_indent.append hname).append ((lexed_quoted n.label).append hfill)).append
    ((lexed_quoted n.fill).append hend)
  simpa [Graph.nodeLine, nodeTokens] using hline

theorem lexed_edgeLine (e : Nat × Nat) : Lexed (Graph.edgeLine e).toList (edgeTokens e) := by
  have harrow : Lexed " -> ".toList [.mark '-', .mark '>'] := by
    intro rest
    simp [tokens_outside_cons, start, isGap, isMark, Graph.isNameChar, Function.comp_def]
  have hend : Lexed ";\n".toList [.mark ';'] := by
    intro rest
    simp [tokens_outside_cons, start, isGap, isMark, Graph.isNameChar]
  have hparent : Lexed ((Node.name e.1).toList ++ " -> ".toList)
      (.word (Node.name e.1) :: [.mark '-', .mark '>']) := .name (by decide) harrow
  have hchild : Lexed ((Node.name e.2).toList ++ ";\n".toList)
      (.word (Node.name e.2) :: [.mark ';']) := .name (by decide) hend
  simpa [Graph.edgeLine, edgeTokens] using (lexed_indent.append hparent).append hchild

/-- Lines one after the other. -/
theorem Lexed.join {β : Type} {line : β → String} {ts : β → List Token}
    (h : ∀ x, Lexed (line x).toList (ts x)) (xs : List β) :
    Lexed (String.join (xs.map line)).toList (xs.flatMap ts) := by
  induction xs with
  | nil => exact .nil
  | cons x xs ih => simpa using (h x).append ih

/-- The tokens before the first node. -/
def headTokens (name : String) : List Token :=
  [.word "digraph", .word name, .mark '{', .word "node", .mark '[', .word "shape", .mark '=',
    .word "box", .mark ',', .word "style", .mark '=', .word "filled", .mark ']', .mark ';']

theorem lexed_head {name : String} (hne : name.toList ≠ [])
    (hname : ∀ c ∈ name.toList, Graph.isNameChar c = true) :
    Lexed ("digraph " ++ name ++ " \x7b\n    node [shape=box, style=filled];\n").toList
      (headTokens name) := by
  have hdigraph : Lexed "digraph ".toList [.word "digraph"] := by
    intro rest
    simp [tokens_outside_cons, tokens_word_cons, start, isGap, Graph.isNameChar, Function.comp_def]
  have hdefaults : Lexed " \x7b\n    node [shape=box, style=filled];\n".toList
      [.mark '{', .word "node", .mark '[', .word "shape", .mark '=', .word "box", .mark ',',
        .word "style", .mark '=', .word "filled", .mark ']', .mark ';'] := by
    intro rest
    simp [tokens_outside_cons, tokens_word_cons, start, isGap, isMark, Graph.isNameChar,
      Function.comp_def]
  rw [String.toList_append, String.toList_append, List.append_assoc]
  exact hdigraph.append (.word hne hname (by decide) hdefaults)

/-! ## Whole texts -/

/-- The statement for a node. -/
def nodeStatement (n : GraphNode) : Statement :=
  .node n.id [("label", n.label), ("fillcolor", n.fill)]

/-- The statement for an edge. -/
def edgeStatement (e : Nat × Nat) : Statement :=
  .edge e.1 e.2

/-- What the text of a graph is meant to say. -/
def Document.ofGraph (g : Graph) : Document where
  name := g.name
  statements := .defaults [("shape", "box"), ("style", "filled")] ::
    (g.nodes.map nodeStatement ++ g.edges.map edgeStatement)

theorem tokens_text (g : Graph) (hne : g.name.toList ≠ [])
    (hname : ∀ c ∈ g.name.toList, Graph.isNameChar c = true) :
    tokens .outside g.text.toList = some (headTokens g.name ++ (g.nodes.flatMap nodeTokens ++
      (g.edges.flatMap edgeTokens ++ [Token.mark '}']))) := by
  have hend : Lexed "\x7d\n".toList [.mark '}'] := by
    intro rest
    simp [tokens_outside_cons, start, isGap, isMark, Graph.isNameChar]
  have htext := (lexed_head hne hname).append ((Lexed.join lexed_nodeLine g.nodes).append
    ((Lexed.join lexed_edgeLine g.edges).append hend)) []
  simpa [Graph.text, tokens_outside_nil] using htext

theorem name_ne_node (id : Nat) : Node.name id ≠ "node" := by
  intro h
  have hid := nodeId?_name id
  have hnone : nodeId? "node" = none := by decide
  rw [h, hnone] at hid
  cases hid

theorem statements_node (n : GraphNode) (rest : List Token) :
    statements [] (nodeTokens n ++ rest) = (statements [] rest).map (nodeStatement n :: ·) := by
  simp [nodeTokens, statements, statement?, attributes, Token.value?, nodeId?_name, name_ne_node,
    nodeStatement]

theorem statements_edge (e : Nat × Nat) (rest : List Token) :
    statements [] (edgeTokens e ++ rest) = (statements [] rest).map (edgeStatement e :: ·) := by
  simp [edgeTokens, statements, statement?, nodeId?_name, edgeStatement]

/-- Statements are read one after the other. -/
theorem statements_flatMap {β : Type} {ts : β → List Token} {st : β → Statement}
    (h : ∀ x rest, statements [] (ts x ++ rest) = (statements [] rest).map (st x :: ·))
    (xs : List β) (rest : List Token) :
    statements [] (xs.flatMap ts ++ rest) = (statements [] rest).map (xs.map st ++ ·) := by
  induction xs with
  | nil => simp
  | cons x xs ih =>
    rw [List.flatMap_cons, List.append_assoc, h, ih, Option.map_map]
    rfl

/-- **A graph text is read as the statements that it was made of**, and no others. -/
theorem read?_text (g : Graph) (hne : g.name.toList ≠ [])
    (hname : ∀ c ∈ g.name.toList, Graph.isNameChar c = true) :
    read? g.text = some (.ofGraph g) := by
  have hend : statements [] [.mark '}'] = some [] := rfl
  have hall : statements [] (g.nodes.flatMap nodeTokens ++
      (g.edges.flatMap edgeTokens ++ [Token.mark '}'])) =
      some (g.nodes.map nodeStatement ++ g.edges.map edgeStatement) := by
    rw [statements_flatMap statements_node, statements_flatMap statements_edge, hend]
    simp
  rw [read?, tokens_text g hne hname, Option.bind_some]
  simp [headTokens, document?, statements, statement?, attributes, Token.value?, hall,
    Document.ofGraph]

@[simp] theorem node?_nodeStatement (n : GraphNode) :
    (nodeStatement n).node? = some (n.id, n.label, n.fill) := rfl

@[simp] theorem edge?_nodeStatement (n : GraphNode) : (nodeStatement n).edge? = none := rfl

@[simp] theorem node?_edgeStatement (e : Nat × Nat) : (edgeStatement e).node? = none := rfl

@[simp] theorem edge?_edgeStatement (e : Nat × Nat) : (edgeStatement e).edge? = some e := rfl

theorem Document.nodes_ofGraph (g : Graph) :
    (ofGraph g).nodes = g.nodes.map fun n => (n.id, n.label, n.fill) := by
  rw [nodes, ofGraph, List.filterMap_cons_none rfl, List.filterMap_append, List.filterMap_map,
    List.filterMap_map]
  simp [Function.comp_def]

theorem Document.edges_ofGraph (g : Graph) : (ofGraph g).edges = g.edges := by
  rw [edges, ofGraph, List.filterMap_cons_none rfl, List.filterMap_append, List.filterMap_map,
    List.filterMap_map]
  simp [Function.comp_def]

end Dot

/-! ## Graphs of trees -/

namespace Graph

/-- The name of a graph is a word. -/
theorem legalName_isWord (name : String) :
    (legalName name).toList ≠ [] ∧ ∀ c ∈ (legalName name).toList, isNameChar c = true := by
  have hchars : ∀ c ∈ name.toList.map (fun c => if isNameChar c then c else '_'),
      isNameChar c = true := by
    intro c hc
    obtain ⟨x, -, rfl⟩ := List.mem_map.mp hc
    split
    · assumption
    · decide
  unfold legalName
  generalize name.toList.map (fun c => if isNameChar c then c else '_') = cs at hchars
  cases cs with
  | nil => simp [isNameChar]
  | cons c cs =>
    dsimp only
    split
    · refine ⟨by simp, ?_⟩
      rw [String.toList_ofList, List.forall_mem_cons]
      exact ⟨by decide, hchars⟩
    · rw [String.toList_ofList]
      exact ⟨by simp, hchars⟩

/-- What a line says about a node is all that it is made of. -/
theorem join_nodeLine_congr {ns ns' : List GraphNode}
    (h : ns.map (fun n => (n.id, n.label, n.fill)) = ns'.map fun n => (n.id, n.label, n.fill)) :
    ns.map nodeLine = ns'.map nodeLine := by
  have hline : ∀ ns : List GraphNode, ns.map nodeLine =
      (ns.map fun n => (n.id, n.label, n.fill)).map fun (id, label, fill) =>
        nodeLine ⟨id, label, .unchanged, fill⟩ := by
    intro ns
    rw [List.map_map]
    rfl
  rw [hline, hline, h]

/-- **Graph texts are unambiguous.** The text of the graph of a tree, whatever its labels and colors
are, is read back as the name of the graph, its nodes with labels and colors, and its edges, and it
holds no other statement. So two such graphs have the same text only if they agree in all that. -/
theorem read?_text_ofTree (t : Tree) (name : String) (coloring : Coloring) (palette : Palette) :
    let g := ofTree t name coloring palette
    (∃ doc, Dot.read? g.text = some doc ∧ doc.name = g.name ∧
      doc.nodes = g.nodes.map (fun n => (n.id, n.label, n.fill)) ∧ doc.edges = g.edges ∧
      doc.statements.length = 1 + g.nodes.length + g.edges.length) ∧
    ∀ (t' : Tree) (name' : String) (coloring' : Coloring) (palette' : Palette),
      let g' := ofTree t' name' coloring' palette'
      g'.text = g.text ↔ g'.name = g.name ∧
        g'.nodes.map (fun n => (n.id, n.label, n.fill)) =
          g.nodes.map (fun n => (n.id, n.label, n.fill)) ∧ g'.edges = g.edges := by
  have hread : ∀ (t : Tree) (name : String) (coloring : Coloring) (palette : Palette),
      Dot.read? (ofTree t name coloring palette).text =
        some (.ofGraph (ofTree t name coloring palette)) := by
    intro t name coloring palette
    obtain ⟨hne, hname⟩ := legalName_isWord name
    exact Dot.read?_text (ofTree t name coloring palette) hne hname
  intro g
  refine ⟨⟨.ofGraph g, hread _ _ _ _, rfl, Dot.Document.nodes_ofGraph g,
    Dot.Document.edges_ofGraph g, ?_⟩, fun t' name' coloring' palette' => ⟨fun htext => ?_, ?_⟩⟩
  · simp [Dot.Document.ofGraph]
    omega
  · have hdoc : Dot.Document.ofGraph (ofTree t' name' coloring' palette') = .ofGraph g := by
      refine Option.some.inj ?_
      rw [← hread, ← hread, htext]
    refine ⟨congrArg Dot.Document.name hdoc, ?_, ?_⟩
    · rw [← Dot.Document.nodes_ofGraph, ← Dot.Document.nodes_ofGraph, hdoc]
    · rw [← Dot.Document.edges_ofGraph, hdoc, Dot.Document.edges_ofGraph]
  · rintro ⟨hname, hnodes, hedges⟩
    rw [text, text, hname, hedges, join_nodeLine_congr hnodes]

end Graph

end AstCompare
