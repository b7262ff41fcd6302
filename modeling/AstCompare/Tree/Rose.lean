/-!
# Ordered trees with any number of children

`Rose α` is the type of ordered trees whose nodes carry a value of type `α`. The recursive
definitions below say what is meant; they recurse as deep as the tree is. Dumps nest without bound,
so everything that runs goes through the loops, which keep their pending work in a list and need no
call stack.

## Main definitions

* `Rose.size`, `Rose.preorder`, `Rose.map`: the recursive definitions.
* `Rose.walk`: the pre-order listing of the subtrees, each with the value of its parent, made of
  what `Rose.next` gives call by call.
* `Rose.transform`: `Rose.map` as a loop over open nodes. Each open node is a `Rose.Frame`, and in a
  turn of the loop (`Rose.Frame.turn`) it finds its next child by the number of those it has
  finished.
* `Rose.agree`: two trees of one shape whose values agree, as a loop over pairs. `Rose.agreeTurn` is
  one turn of it.
-/

namespace AstCompare

/-- Ordered trees: a value and a list of subtrees. -/
inductive Rose (α : Type) where
  | node (value : α) (children : List (Rose α))

namespace Rose

variable {α β : Type}

/-- The value at the root. -/
def value : Rose α → α
  | node a _ => a

/-- The subtrees under the root, in order. -/
def children : Rose α → List (Rose α)
  | node _ ts => ts

@[simp]
theorem value_node (a : α) (ts : List (Rose α)) : (node a ts).value = a := rfl

@[simp]
theorem children_node (a : α) (ts : List (Rose α)) : (node a ts).children = ts := rfl

/-- The root has no children. -/
def isLeaf (t : Rose α) : Bool :=
  t.children.isEmpty

/-! ### Recursive definitions -/

mutual

/-- The number of nodes. -/
def size : Rose α → Nat
  | node _ ts => 1 + forestSize ts

/-- The number of nodes of a list of trees. -/
def forestSize : List (Rose α) → Nat
  | [] => 0
  | t :: ts => size t + forestSize ts

end

mutual

/-- The values depth first, every node before its children and the children in order. -/
def values : Rose α → List α
  | node a ts => a :: forestValues ts

/-- The values of a list of trees, tree after tree. -/
def forestValues : List (Rose α) → List α
  | [] => []
  | t :: ts => values t ++ forestValues ts

end

mutual

/-- The nodes in the order of `values`, each with the value of its parent. -/
def preorder (parent : Option α) : Rose α → List (Option α × Rose α)
  | node a ts => (parent, node a ts) :: forestPreorder (some a) ts

/-- The nodes of the trees under one parent, tree after tree. -/
def forestPreorder (parent : Option α) : List (Rose α) → List (Option α × Rose α)
  | [] => []
  | t :: ts => preorder parent t ++ forestPreorder parent ts

end

mutual

/-- The tree of the same nesting with `f` applied to every value. -/
def map (f : α → β) : Rose α → Rose β
  | node a ts => node (f a) (forestMap f ts)

/-- `map` on each tree of a list. -/
def forestMap (f : α → β) : List (Rose α) → List (Rose β)
  | [] => []
  | t :: ts => map f t :: forestMap f ts

end

theorem size_eq (t : Rose α) : t.size = 1 + forestSize t.children := by
  cases t; simp [size]

theorem size_pos (t : Rose α) : 0 < t.size := by
  rw [size_eq]; omega

/-! ### Loops -/

/-- The number of nodes that a list of pending trees still holds. -/
def pendingSize (stack : List (Option α × Rose α)) : Nat :=
  forestSize (stack.map Prod.snd)

theorem forestSize_append (ts us : List (Rose α)) :
    forestSize (ts ++ us) = forestSize ts + forestSize us := by
  induction ts with
  | nil => simp [forestSize]
  | cons t ts ih => simp [forestSize, ih]; omega

/-- One call of the walk: the first pending tree, if there is one, with what is pending after it.
The children of its root come first then. -/
def next : List (Option α × Rose α) → Option ((Option α × Rose α) × List (Option α × Rose α))
  | [] => none
  | (parent, t) :: rest => some ((parent, t), t.children.map (fun c => (some t.value, c)) ++ rest)

theorem pendingSize_lt_of_next {stack rest : List (Option α × Rose α)} {e : Option α × Rose α}
    (h : next stack = some (e, rest)) : pendingSize rest < pendingSize stack := by
  cases stack with
  | nil => cases h
  | cons e' rest' =>
    obtain ⟨parent, t⟩ := e'
    cases h
    simp [pendingSize, forestSize_append, forestSize, size_eq t, Function.comp_def]

/-- The loop of `walk`: list the trees that the calls give until there is none. -/
def walkFrom (stack : List (Option α × Rose α)) (done : List (Option α × Rose α)) :
    List (Option α × Rose α) :=
  match h : next stack with
  | none => done.reverse
  | some (e, rest) =>
    have := pendingSize_lt_of_next h
    walkFrom rest (e :: done)
termination_by pendingSize stack

/-- The nodes in pre-order, each with the value of its parent. -/
def walk (t : Rose α) : List (Option α × Rose α) :=
  walkFrom [(none, t)] []

/-- The number of nodes, counted by the walk. -/
def count (t : Rose α) : Nat :=
  t.walk.length

/-- An open node, with those of its children that have been transformed. -/
structure Frame (α β : Type) where
  tree : Rose α
  built : Array (Rose β)

namespace Frame

/-- The children that are not finished. Of an open node around another one, the first of them is the
one that is being worked on. -/
def remaining (fr : Frame α β) : List (Rose α) :=
  fr.tree.children.drop fr.built.size

variable {fr : Frame α β} {c : Rose α}

/-- The number of finished children is the place of the next one. -/
theorem remaining_of_some (h : fr.tree.children[fr.built.size]? = some c) :
    fr.remaining = c :: fr.remaining.tail := by
  obtain ⟨hlt, rfl⟩ := List.getElem?_eq_some_iff.mp h
  rw [remaining, List.drop_eq_getElem_cons hlt, List.tail_cons]

/-- A child that is handed in makes room for the one behind it. -/
theorem remaining_push (fr : Frame α β) (t : Rose β) :
    { fr with built := fr.built.push t }.remaining = fr.remaining.tail := by
  rw [remaining, remaining, Array.size_push, List.tail_drop]

end Frame

/-- Work left in the nodes around the innermost one, each of which waits for its next child. -/
def outerWork : List (Frame α β) → Nat
  | [] => 0
  | fr :: outer => 2 * forestSize fr.remaining.tail + 1 + outerWork outer

/-- Work left in a list of open nodes: two steps for each node not yet opened, one for each open. -/
def frameWork : List (Frame α β) → Nat
  | [] => 0
  | fr :: outer => 2 * forestSize fr.remaining + 1 + outerWork outer

/-- One turn of the loop of `transform`, with the open nodes around the innermost one. Its next
child is opened, or it is closed and handed to the node around it, if there is one. -/
def Frame.turn (f : α → β) (fr : Frame α β) (outer : List (Frame α β)) :
    Rose β ⊕ List (Frame α β) :=
  match fr.tree.children[fr.built.size]? with
  | some c => .inr (⟨c, #[]⟩ :: fr :: outer)
  | none =>
    let closed := node (f fr.tree.value) fr.built.toList
    match outer with
    | [] => .inl closed
    | up :: outer => .inr ({ up with built := up.built.push closed } :: outer)

theorem frameWork_lt_of_turn {f : α → β} {fr : Frame α β} {outer stack : List (Frame α β)}
    (h : fr.turn f outer = .inr stack) : frameWork stack < frameWork (fr :: outer) := by
  simp only [Frame.turn] at h
  split at h
  · rename_i c hc
    cases h
    have hnew : (⟨c, #[]⟩ : Frame α β).remaining = c.children := rfl
    rw [frameWork, frameWork, outerWork, hnew, Frame.remaining_of_some hc, forestSize, size_eq c,
      List.tail_cons]
    omega
  · cases outer with
    | nil => cases h
    | cons up outer =>
      cases h
      rw [frameWork, frameWork, outerWork, Frame.remaining_push]
      omega

/-- The loop of `transform`: turns until no node is open. `finished` is the tree closed last without
a node around it. -/
def transformFrom (f : α → β) (stack : List (Frame α β)) (finished : Option (Rose β)) :
    Option (Rose β) :=
  match stack with
  | [] => finished
  | fr :: outer =>
    match h : fr.turn f outer with
    | .inl t => transformFrom f [] (some t)
    | .inr stack =>
      have := frameWork_lt_of_turn h
      transformFrom f stack finished
termination_by frameWork stack
decreasing_by
  · rw [frameWork, frameWork]
    omega
  · assumption

/-- The tree of the same nesting with `f` applied to every value. -/
def transform (f : α → β) (t : Rose α) : Rose β :=
  (transformFrom f [⟨t, #[]⟩] none).getD (node (f t.value) [])

/-- One turn of the loop of `agree`, with the pairs of trees that are still to be compared. The
first pair decides, or the pairs of its children go in front, the last pair first. -/
def agreeTurn (eq : α → β → Bool) : List (Rose α × Rose β) → Bool ⊕ List (Rose α × Rose β)
  | [] => .inl true
  | (a, b) :: rest =>
    if eq a.value b.value && a.children.length == b.children.length then
      .inr ((a.children.zip b.children).reverse ++ rest)
    else
      .inl false

theorem forestSize_reverse (ts : List (Rose α)) : forestSize ts.reverse = forestSize ts := by
  induction ts with
  | nil => rfl
  | cons t ts ih => simp [forestSize_append, forestSize, ih]; omega

theorem forestSize_map_fst_zip_le (ts : List (Rose α)) (us : List (Rose β)) :
    forestSize ((ts.zip us).map Prod.fst) ≤ forestSize ts := by
  induction ts generalizing us with
  | nil => simp [forestSize]
  | cons t ts ih =>
    cases us with
    | nil => simp [forestSize]
    | cons u us =>
      have := ih us
      simp [forestSize] at this ⊢
      omega

theorem forestSize_lt_of_agreeTurn {eq : α → β → Bool} {stack stack' : List (Rose α × Rose β)}
    (h : agreeTurn eq stack = .inr stack') :
    forestSize (stack'.map Prod.fst) < forestSize (stack.map Prod.fst) := by
  cases stack with
  | nil => cases h
  | cons p rest =>
    obtain ⟨a, b⟩ := p
    simp only [agreeTurn] at h
    split at h
    · cases h
      have := forestSize_map_fst_zip_le a.children b.children
      simp [forestSize_append, forestSize_reverse, forestSize, size_eq a]
      omega
    · cases h

/-- The loop of `agree`: turns until one decides. -/
def agreeFrom (eq : α → β → Bool) (stack : List (Rose α × Rose β)) : Bool :=
  match h : agreeTurn eq stack with
  | .inl result => result
  | .inr rest =>
    have := forestSize_lt_of_agreeTurn h
    agreeFrom eq rest
termination_by forestSize (stack.map Prod.fst)

/-- Both trees nest alike and `eq` holds of the values at corresponding nodes. -/
def agree (eq : α → β → Bool) (a : Rose α) (b : Rose β) : Bool :=
  agreeFrom eq [(a, b)]

end Rose

end AstCompare
