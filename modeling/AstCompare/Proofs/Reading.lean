import AstCompare.Tree.Indented
import AstCompare.Proofs.Nesting
import Mathlib.Data.List.Basic

/-!
# What reading by indentation computes

`Reader.read` keeps open nodes on a stack and closes them as the lines fall back. What comes out has
a description without a stack: drop the blank lines, number the others from the counter on, and nest
them by their indentation as `Rose.ofDepths` does. This holds whenever all lines after the first
are deeper than the first, and only then is there a tree at all.

## The invariant

`Reading.complete stack es` is the tree that a stack will have become once the entries `es` have
been taken in. One line moves its entry from `es` to the stack and leaves that tree as it is
(`complete_closeTo`, `complete_open`); when no entries are left, closing the stack gives it
(`closeTo_snd_of_nil`). Nothing else about the open nodes is needed but that the outermost one is
the least deep, which `Reading.Within` says.

## Main results

* `Reader.read_of_deeper`, `Reader.read_of_blank`, `Reader.read_of_shallow`: the three outcomes of
  reading.
* `Reader.read_eq_ok_iff`: the lines that are a tree, and the tree.
-/

namespace AstCompare

/-! ## Lines that count -/

namespace Text

/-- The lines that are not blank. -/
def nonBlank (ls : List String) : List String :=
  ls.filter fun s => !(trimmed s).isEmpty

/-- The lines that are not blank, each as its indentation and its trimmed text. -/
def outline (ls : List String) : List (Nat × String) :=
  (nonBlank ls).map fun s => (indentation s, trimmed s)

@[simp] theorem outline_nil : outline [] = [] := rfl

theorem outline_cons_of_blank {s : String} (h : (trimmed s).isEmpty = true) (ls : List String) :
    outline (s :: ls) = outline ls := by
  simp [outline, nonBlank, h]

theorem outline_cons_of_not_blank {s : String} (h : (trimmed s).isEmpty = false)
    (ls : List String) : outline (s :: ls) = (indentation s, trimmed s) :: outline ls := by
  simp [outline, nonBlank, h]

theorem outline_append (ls ms : List String) : outline (ls ++ ms) = outline ls ++ outline ms := by
  simp [outline, nonBlank]

end Text

namespace Reading

/-- The entries as nodes, numbered from `id` on. -/
def number (id : Nat) : List (Nat × String) → List (Nat × Node)
  | [] => []
  | e :: es => (e.1, ⟨id, e.2⟩) :: number (id + 1) es

theorem map_label_number (id : Nat) (es : List (Nat × String)) :
    (number id es).map (fun e => (e.1, e.2.label)) = es := by
  induction es generalizing id with
  | nil => rfl
  | cons e es ih => simp [number, ih]

theorem map_id_number (id : Nat) (es : List (Nat × String)) :
    (number id es).map (fun e => e.2.id) = List.range' id es.length := by
  induction es generalizing id with
  | nil => rfl
  | cons e es ih => simp [number, ih, List.range'_succ]

theorem length_number (id : Nat) (es : List (Nat × String)) :
    (number id es).length = es.length := by
  induction es generalizing id with
  | nil => rfl
  | cons e es ih => simp [number, ih]

theorem getElem?_number (id : Nat) (es : List (Nat × String)) (i : Nat) :
    (number id es)[i]? = es[i]?.map fun e => (e.1, ⟨id + i, e.2⟩) := by
  induction es generalizing id i with
  | nil => simp [number]
  | cons e es ih =>
    cases i with
    | zero => simp [number]
    | succ i => simp [number, ih, Nat.add_comm, Nat.add_left_comm]

/-! ## Stacks of open nodes -/

/-- What stays the same about an open node while it gets children. -/
def key (n : OpenNode) : Nat × Node :=
  (n.depth, n.node)

@[simp] theorem key_adopt (n : OpenNode) (t : Tree) : key (n.adopt t) = key n := rfl

/-- The finished tree of a node that gets these children after those it has. -/
def closeWith (n : OpenNode) (ts : List Tree) : Tree :=
  .node n.node (n.children.reverse ++ ts)

theorem closeWith_nil (n : OpenNode) : closeWith n [] = n.close := by
  simp [closeWith, OpenNode.close]

theorem closeWith_cons (n : OpenNode) (t : Tree) (ts : List Tree) :
    closeWith n (t :: ts) = closeWith (n.adopt t) ts := by
  simp [closeWith, OpenNode.adopt]

/-- The tree that a stack becomes once the entries have been taken in: the innermost node takes the
entries that are deeper than itself, and is then a child of the next one. -/
def complete (stack : List OpenNode) (es : List (Nat × Node)) : Option Tree :=
  match stack with
  | [] => none
  | [n] => some (closeWith n (Rose.ofDepths es))
  | n :: p :: rest =>
    complete (p.adopt (closeWith n (Rose.ofDepths (es.takeWhile (n.depth < ·.1)))) :: rest)
      (es.dropWhile (n.depth < ·.1))
termination_by stack.length

theorem complete_cons_cons (n p : OpenNode) (rest : List OpenNode) (es : List (Nat × Node)) :
    complete (n :: p :: rest) es =
      complete (p.adopt (closeWith n (Rose.ofDepths (es.takeWhile (n.depth < ·.1)))) :: rest)
        (es.dropWhile (n.depth < ·.1)) := by
  rw [complete]

/-- The root of the tree is the outermost open node. -/
theorem map_value_complete (stack : List OpenNode) (es : List (Nat × Node)) :
    (complete stack es).map Rose.value = (stack.map key).getLast?.map Prod.snd := by
  fun_induction complete stack es with
  | case1 => rfl
  | case2 es n => rfl
  | case3 es n p rest ih =>
    rw [ih]
    simp

/-- Closing drops the open nodes that are indented by `d` or more and keeps the others. -/
theorem map_key_closeTo (d : Nat) (stack : List OpenNode) (root : Option Tree) :
    (closeTo d stack root).1.map key = (stack.map key).dropWhile (d ≤ ·.1) := by
  fun_induction closeTo d stack root with
  | case1 => rfl
  | case2 n h => simp [key, h]
  | case3 n h => simp [key, h]
  | case4 n p rest h ih =>
    rw [ih]
    simp [key, h, OpenNode.adopt]
  | case5 n p rest h => simp [key, h]

theorem closeTo_snd_of_ne_nil {d : Nat} {stack : List OpenNode} {root : Option Tree}
    (h : (closeTo d stack root).1 ≠ []) : (closeTo d stack root).2 = root := by
  fun_induction closeTo d stack root with
  | case1 => rfl
  | case2 n hd => exact absurd rfl h
  | case3 n hd => rfl
  | case4 n p rest hd ih => exact ih h
  | case5 n p rest hd => rfl

/-- A stack that is closed altogether has become its tree. -/
theorem closeTo_snd_of_nil {d : Nat} {stack : List OpenNode} {root : Option Tree}
    (hs : stack ≠ []) (h : (closeTo d stack root).1 = []) :
    (closeTo d stack root).2 = complete stack [] := by
  fun_induction closeTo d stack root with
  | case1 => exact absurd rfl hs
  | case2 n hd => simp [complete, closeWith_nil]
  | case3 n hd => exact absurd h (by simp)
  | case4 n p rest hd ih =>
    rw [ih (by simp) h, complete_cons_cons]
    simp [closeWith_nil]
  | case5 n p rest hd => exact absurd h (by simp)

/-- Closing for an entry does not change what the stack becomes: the nodes that are closed would
not have taken the entry, nor anything after it. -/
theorem complete_closeTo {d : Nat} {stack : List OpenNode} {root : Option Tree} (x : Node)
    (es : List (Nat × Node)) (h : (closeTo d stack root).1 ≠ []) :
    complete (closeTo d stack root).1 ((d, x) :: es) = complete stack ((d, x) :: es) := by
  fun_induction closeTo d stack root with
  | case1 => rfl
  | case2 n hd => exact absurd rfl h
  | case3 n hd => rfl
  | case4 n p rest hd ih =>
    rw [ih h, complete_cons_cons]
    simp [closeWith_nil, Nat.not_lt.mpr hd]
  | case5 n p rest hd => rfl

/-! ## Opening a node

A node that is opened below `m` takes the entries deeper than itself out of those that `m` takes, so
the two ways of cutting the entries have to agree. -/

theorem dropWhile_dropWhile_of_imp {α : Type} {p q : α → Bool} (hqp : ∀ a, q a → p a)
    (l : List α) : (l.dropWhile q).dropWhile p = l.dropWhile p := by
  induction l with
  | nil => rfl
  | cons a l ih =>
    by_cases hq : q a
    · rw [List.dropWhile_cons_of_pos hq, List.dropWhile_cons_of_pos (hqp a hq), ih]
    · rw [List.dropWhile_cons_of_neg hq]

theorem takeWhile_dropWhile_of_imp {α : Type} {p q : α → Bool} (hqp : ∀ a, q a → p a)
    (l : List α) : (l.dropWhile q).takeWhile p = (l.takeWhile p).dropWhile q := by
  induction l with
  | nil => rfl
  | cons a l ih =>
    by_cases hq : q a
    · rw [List.dropWhile_cons_of_pos hq, List.takeWhile_cons_of_pos (hqp a hq),
        List.dropWhile_cons_of_pos hq, ih]
    · rw [List.dropWhile_cons_of_neg hq]
      by_cases hp : p a
      · rw [List.takeWhile_cons_of_pos hp, List.dropWhile_cons_of_neg hq]
      · rw [List.takeWhile_cons_of_neg hp, List.dropWhile_nil]

theorem takeWhile_takeWhile_of_imp {α : Type} {p q : α → Bool} (hqp : ∀ a, q a → p a)
    (l : List α) : (l.takeWhile p).takeWhile q = l.takeWhile q := by
  rw [List.takeWhile_takeWhile]
  congr 1
  funext a
  by_cases hq : q a
  · simp [hq, hqp a hq]
  · simp [hq]

/-- Opening a node for an entry that is deeper than the innermost node does not change what the
stack becomes. -/
theorem complete_open {d : Nat} {x : Node} {m : OpenNode} (rest : List OpenNode)
    (es : List (Nat × Node)) (h : m.depth < d) :
    complete (⟨d, x, []⟩ :: m :: rest) es = complete (m :: rest) ((d, x) :: es) := by
  have himp : ∀ e : Nat × Node, decide (d < e.1) = true → decide (m.depth < e.1) = true := by
    intro e he
    have hd : d < e.1 := by simpa using he
    simpa using Nat.lt_trans h hd
  have hin : ((d, x) :: es).takeWhile (m.depth < ·.1) =
      (d, x) :: es.takeWhile (m.depth < ·.1) := by
    simp [h]
  have hout : ((d, x) :: es).dropWhile (m.depth < ·.1) = es.dropWhile (m.depth < ·.1) := by
    simp [h]
  rw [complete_cons_cons]
  cases rest with
  | nil => simp [complete, closeWith, OpenNode.adopt, Rose.ofDepths_cons]
  | cons p rest =>
    rw [complete_cons_cons, complete_cons_cons, hin, hout, Rose.ofDepths_cons, closeWith_cons,
      takeWhile_takeWhile_of_imp himp, ← takeWhile_dropWhile_of_imp himp,
      ← dropWhile_dropWhile_of_imp himp]
    rfl

/-! ## One line -/

/-- Reading is inside a tree: no root is closed yet, the outermost open node is `root`, indented by
`base`, and no open node is indented less. -/
structure Within (base : Nat) (root : Node) (r : Reading) : Prop where
  /-- The root has not been closed. -/
  unfinished : r.root = none
  /-- The outermost open node is the root. -/
  outermost : (r.stack.map key).getLast? = some (base, root)
  /-- No open node is indented less than the root. -/
  bounded : ∀ k ∈ r.stack.map key, base ≤ k.1

theorem Within.stack_ne_nil {base : Nat} {root : Node} {r : Reading} (h : Within base root r) :
    r.stack ≠ [] := by
  intro hnil
  have hlast := h.outermost
  rw [hnil] at hlast
  exact absurd hlast (by simp)

/-- What the stack becomes has the root of the tree at its root. -/
theorem Within.exists_complete {base : Nat} {root : Node} {r : Reading} (h : Within base root r)
    (es : List (Nat × Node)) : ∃ t, complete r.stack es = some t ∧ t.value = root := by
  have hv := map_value_complete r.stack es
  rw [h.outermost] at hv
  exact Option.map_eq_some_iff.mp hv

/-- A line that is not deeper than the root closes everything. -/
theorem Within.closeTo_eq {base : Nat} {root : Node} {r : Reading} (h : Within base root r)
    {d : Nat} (hd : d ≤ base) : closeTo d r.stack r.root = ([], complete r.stack []) := by
  have hnil : (closeTo d r.stack r.root).1 = [] := by
    rw [← List.map_eq_nil_iff, map_key_closeTo, List.dropWhile_eq_nil_iff]
    intro k hk
    simpa using Nat.le_trans hd (h.bounded k hk)
  exact Prod.ext hnil (closeTo_snd_of_nil h.stack_ne_nil hnil)

theorem step_of_blank (r : Reading) (line : Nat) {s : String}
    (hs : (Text.trimmed s).isEmpty = true) : r.step line s = .ok r := by
  simp [step, hs]

/-- The first line that is not blank opens the root. -/
theorem step_of_empty {r : Reading} (hstack : r.stack = []) (hroot : r.root = none) (line : Nat)
    {s : String} (hs : (Text.trimmed s).isEmpty = false) :
    r.step line s = .ok ⟨r.nextId + 1,
      [⟨Text.indentation s, ⟨r.nextId, Text.trimmed s⟩, []⟩], none⟩ := by
  simp [step, hs, hstack, hroot, closeTo]

/-- A line that is no deeper than the root would be a second root. -/
theorem Within.step_shallow {base : Nat} {root : Node} {r : Reading} (h : Within base root r)
    (line : Nat) {s : String} (hs : (Text.trimmed s).isEmpty = false)
    (hd : Text.indentation s ≤ base) :
    r.step line s = .error (.secondRoot (Text.trimmed s) line root.label) := by
  obtain ⟨t, ht, hroot⟩ := h.exists_complete []
  simp [step, hs, h.closeTo_eq hd, ht, Tree.label, hroot]

/-- **One line inside a tree.** Its entry goes from those that are still to come to the stack, and
the tree that is being read stays the same. -/
theorem Within.step_deeper {base : Nat} {root : Node} {r : Reading} (h : Within base root r)
    (line : Nat) {s : String} (hs : (Text.trimmed s).isEmpty = false)
    (hd : base < Text.indentation s) :
    ∃ r', r.step line s = .ok r' ∧ Within base root r' ∧ r'.nextId = r.nextId + 1 ∧
      ∀ es, complete r'.stack es =
        complete r.stack ((Text.indentation s, ⟨r.nextId, Text.trimmed s⟩) :: es) := by
  have hkeys := map_key_closeTo (Text.indentation s) r.stack r.root
  -- the root is not closed, so something stays open
  have hne : (closeTo (Text.indentation s) r.stack r.root).1 ≠ [] := by
    intro hnil
    rw [hnil, List.map_nil, eq_comm, List.dropWhile_eq_nil_iff] at hkeys
    have hbase := hkeys (base, root) (List.mem_of_getLast? h.outermost)
    exact absurd hd (Nat.not_lt.mpr (by simpa using hbase))
  obtain ⟨m, rest, hmr⟩ := List.exists_cons_of_ne_nil hne
  have hclose : closeTo (Text.indentation s) r.stack r.root = (m :: rest, none) :=
    Prod.ext hmr ((closeTo_snd_of_ne_nil hne).trans h.unfinished)
  have hm : m.depth < Text.indentation s := by
    have hhead := List.head?_dropWhile_not (Text.indentation s ≤ ·.1) (r.stack.map key)
    rw [← hkeys, hmr] at hhead
    simpa [key] using hhead
  have hsuffix : (m :: rest).map key <:+ r.stack.map key := by
    rw [← hmr, hkeys]
    exact List.dropWhile_suffix _
  refine ⟨⟨r.nextId + 1, ⟨Text.indentation s, ⟨r.nextId, Text.trimmed s⟩, []⟩ :: m :: rest, none⟩,
    ?_, ⟨rfl, ?_, ?_⟩, rfl, fun es => ?_⟩
  · simp [step, hs, hclose]
  · obtain ⟨front, hfront⟩ := hsuffix
    rw [← h.outermost, ← hfront, List.getLast?_append_of_ne_nil _ (by simp)]
    simp
  · intro k hk
    rw [List.map_cons, List.mem_cons] at hk
    rcases hk with rfl | hk
    · exact Nat.le_of_lt hd
    · exact h.bounded k (hsuffix.subset hk)
  · rw [complete_open rest es hm, ← hmr]
    exact complete_closeTo _ es hne

/-! ## All lines -/

/-- Taking in lines up to the first error, and then the others. -/
theorem feed_append (r : Reading) (line : Nat) (ls ms : List String) :
    r.feed line (ls ++ ms) =
      match r.feed line ls with
      | (r', none) => r'.feed (line + ls.length) ms
      | (r', some e) => (r', some e) := by
  induction ls generalizing r line with
  | nil => rfl
  | cons s ls ih =>
    rw [List.cons_append, feed, feed]
    cases r.step line s with
    | error e => rfl
    | ok r' =>
      simp only [ih, List.length_cons]
      rw [Nat.add_comm ls.length 1, Nat.add_assoc]

/-- Blank lines change nothing. -/
theorem feed_of_blank (r : Reading) (line : Nat) {ls : List String} (hls : Text.outline ls = []) :
    r.feed line ls = (r, none) := by
  induction ls generalizing line with
  | nil => rfl
  | cons s ls ih =>
    cases hs : (Text.trimmed s).isEmpty with
    | true =>
      rw [Text.outline_cons_of_blank hs] at hls
      rw [feed, step_of_blank r line hs]
      exact ih (line + 1) hls
    | false => simp [Text.outline_cons_of_not_blank hs] at hls

/-- **All lines inside a tree.** The tree that is being read stays the same while its lines go from
those that are still to come to the stack. -/
theorem Within.feed_deeper {base : Nat} {root : Node} {r : Reading} (h : Within base root r)
    (line : Nat) {ls : List String} (hls : ∀ e ∈ Text.outline ls, base < e.1) :
    ∃ r', r.feed line ls = (r', none) ∧ Within base root r' ∧
      r'.nextId = r.nextId + (Text.outline ls).length ∧
      complete r'.stack [] = complete r.stack (number r.nextId (Text.outline ls)) := by
  induction ls generalizing r line with
  | nil => exact ⟨r, rfl, h, rfl, rfl⟩
  | cons s ls ih =>
    cases hs : (Text.trimmed s).isEmpty with
    | true =>
      rw [Text.outline_cons_of_blank hs] at hls ⊢
      rw [feed, step_of_blank r line hs]
      exact ih h (line + 1) hls
    | false =>
      rw [Text.outline_cons_of_not_blank hs, List.forall_mem_cons] at hls
      obtain ⟨r₁, hstep, hr₁, hid₁, hc₁⟩ := h.step_deeper line hs hls.1
      obtain ⟨r₂, hfeed, hr₂, hid₂, hc₂⟩ := ih hr₁ (line + 1) hls.2
      refine ⟨r₂, ?_, hr₂, ?_, ?_⟩
      · rw [feed, hstep]
        exact hfeed
      · rw [hid₂, hid₁, Text.outline_cons_of_not_blank hs, List.length_cons]
        omega
      · rw [hc₂, hc₁, hid₁, Text.outline_cons_of_not_blank hs, number]

/-- At the end the stack is closed, and the root has become the tree. -/
theorem Within.finish_eq {base : Nat} {root : Node} {r : Reading} (h : Within base root r)
    {t : Tree} (ht : complete r.stack [] = some t) : r.finish = .ok t := by
  simp [finish, h.closeTo_eq (Nat.zero_le base), ht]

/-- The reading right after the line of the root. -/
theorem within_of_root (id depth : Nat) (label : String) :
    Within depth ⟨id, label⟩ ⟨id + 1, [⟨depth, ⟨id, label⟩, []⟩], none⟩ :=
  ⟨rfl, rfl, by simp [key]⟩

end Reading

/-! ## The three outcomes -/

namespace Text

/-- A list of lines can be cut wherever its outline is cut. -/
theorem outline_eq_append_iff {ls : List String} {xs ys : List (Nat × String)} :
    outline ls = xs ++ ys ↔ ∃ front rest, ls = front ++ rest ∧ outline front = xs ∧
      outline rest = ys := by
  constructor
  · intro h
    obtain ⟨us, vs, huv, rfl, rfl⟩ := List.map_eq_append_iff.mp h
    obtain ⟨front, rest, rfl, rfl, rfl⟩ := List.filter_eq_append_iff.mp huv
    exact ⟨front, rest, rfl, rfl, rfl⟩
  · rintro ⟨front, rest, rfl, rfl, rfl⟩
    exact outline_append front rest

/-- The first entry of an outline is a line with nothing but blank lines before it. -/
theorem outline_eq_cons_iff {ls : List String} {e : Nat × String} {es : List (Nat × String)} :
    outline ls = e :: es ↔ ∃ front s rest, ls = front ++ s :: rest ∧ outline front = [] ∧
      (trimmed s).isEmpty = false ∧ (indentation s, trimmed s) = e ∧ outline rest = es := by
  constructor
  · intro h
    induction ls with
    | nil => simp at h
    | cons s ls ih =>
      cases hs : (trimmed s).isEmpty with
      | true =>
        rw [outline_cons_of_blank hs] at h
        obtain ⟨front, s', rest, rfl, hfront, hs', he, hes⟩ := ih h
        exact ⟨s :: front, s', rest, rfl, by rw [outline_cons_of_blank hs, hfront], hs', he, hes⟩
      | false =>
        rw [outline_cons_of_not_blank hs, List.cons.injEq] at h
        exact ⟨[], s, ls, rfl, rfl, hs, h.1, h.2⟩
  · rintro ⟨front, s, rest, rfl, hfront, hs, rfl, rfl⟩
    rw [outline_append, hfront, outline_cons_of_not_blank hs, List.nil_append]

end Text

namespace Reader

open Reading

/-- Blank lines are no tree, and use up no number. -/
theorem read_of_blank (r : Reader) {ls : List String} (hls : Text.outline ls = []) :
    r.read ls = (.error .noLines, r) := by
  simp [read, feed_of_blank _ _ hls, finish, closeTo]

/-- Lines that stay below the first one are taken in without an error. -/
theorem feed_of_deeper (id : Nat) {ls : List String} {d : Nat} {label : String}
    {es : List (Nat × String)} (hls : Text.outline ls = (d, label) :: es)
    (hes : ∀ e ∈ es, d < e.1) :
    ∃ r', feed ⟨id, [], none⟩ 1 ls = (r', none) ∧ Within d ⟨id, label⟩ r' ∧
      r'.nextId = id + 1 + es.length ∧
      complete r'.stack [] = some (.node ⟨id, label⟩ (Rose.ofDepths (number (id + 1) es))) := by
  obtain ⟨front, s, rest, rfl, hfront, hs, he, rfl⟩ := Text.outline_eq_cons_iff.mp hls
  obtain ⟨rfl, rfl⟩ := Prod.mk.inj he
  have hroot := within_of_root id (Text.indentation s) (Text.trimmed s)
  obtain ⟨r', hfeed, hr', hid, hc⟩ := hroot.feed_deeper (1 + front.length + 1) hes
  refine ⟨r', ?_, hr', hid, ?_⟩
  · rw [feed_append, feed_of_blank _ _ hfront]
    simp only [feed, step_of_empty (r := ⟨id, [], none⟩) rfl rfl _ hs]
    exact hfeed
  · rw [hc, complete, closeWith]
    rfl

/-- **Lines that are a tree.** -/
theorem read_of_deeper (r : Reader) {ls : List String} {d : Nat} {label : String}
    {es : List (Nat × String)} (hls : Text.outline ls = (d, label) :: es)
    (hes : ∀ e ∈ es, d < e.1) :
    r.read ls = (.ok (.node ⟨r.nextId, label⟩ (Rose.ofDepths (number (r.nextId + 1) es))),
      ⟨r.nextId + 1 + es.length⟩) := by
  obtain ⟨r', hfeed, hr', hid, hc⟩ := feed_of_deeper r.nextId hls hes
  rw [read, hfeed]
  simp only [hid, hr'.finish_eq hc]

/-- **Lines that would be two trees.** The first line that is no deeper than the root is named, by
its place among all lines, and the numbers of the lines before it are used up. -/
theorem read_of_shallow (r : Reader) {front rest : List String} {s : String} {d : Nat}
    {label : String} {es : List (Nat × String)} (hfront : Text.outline front = (d, label) :: es)
    (hes : ∀ e ∈ es, d < e.1) (hs : (Text.trimmed s).isEmpty = false)
    (hd : Text.indentation s ≤ d) :
    r.read (front ++ s :: rest) =
      (.error (.secondRoot (Text.trimmed s) (front.length + 1) label),
        ⟨r.nextId + 1 + es.length⟩) := by
  obtain ⟨r', hfeed, hr', hid, -⟩ := feed_of_deeper r.nextId hfront hes
  have hall : feed ⟨r.nextId, [], none⟩ 1 (front ++ s :: rest) =
      (r', some (.secondRoot (Text.trimmed s) (front.length + 1) label)) := by
    rw [feed_append, hfeed]
    simp only [feed, hr'.step_shallow _ hs hd]
    rw [Nat.add_comm 1]
  rw [read, hall]
  simp only [hid]

/-- Lines that do not stay below the first one have a first line that does not. -/
theorem exists_shallow {ls : List String} {d : Nat} {label : String} {es : List (Nat × String)}
    (hls : Text.outline ls = (d, label) :: es) (hes : ¬ ∀ e ∈ es, d < e.1) :
    ∃ front s rest, ls = front ++ s :: rest ∧
      Text.outline front = (d, label) :: es.takeWhile (d < ·.1) ∧
      (Text.trimmed s).isEmpty = false ∧ Text.indentation s ≤ d := by
  have hdrop : es.dropWhile (d < ·.1) ≠ [] := by
    intro hnil
    exact hes fun e he => by simpa using List.dropWhile_eq_nil_iff.mp hnil e he
  obtain ⟨e, rest, her⟩ := List.exists_cons_of_ne_nil hdrop
  have hed : e.1 ≤ d := by
    have hhead := List.head?_dropWhile_not (d < ·.1) es
    rw [her] at hhead
    simpa using hhead
  have hcut : Text.outline ls = ((d, label) :: es.takeWhile (d < ·.1)) ++ e :: rest := by
    rw [hls, List.cons_append, ← her, List.takeWhile_append_dropWhile]
  obtain ⟨front, back, rfl, hfront, hback⟩ := Text.outline_eq_append_iff.mp hcut
  obtain ⟨blank, s, after, rfl, hblank, hs, rfl, -⟩ := Text.outline_eq_cons_iff.mp hback
  refine ⟨front ++ blank, s, after, (List.append_assoc ..).symm, ?_, hs, hed⟩
  rw [Text.outline_append, hfront, hblank, List.append_nil]

/-- The lines are all blank, or stay below the first one that is not, or have a first line that does
not. -/
theorem cases_outline (ls : List String) :
    Text.outline ls = [] ∨
      (∃ d label es, Text.outline ls = (d, label) :: es ∧ ∀ e ∈ es, d < e.1) ∨
      ∃ front s rest d label es, ls = front ++ s :: rest ∧
        Text.outline front = (d, label) :: es ∧ (∀ e ∈ es, d < e.1) ∧
        (Text.trimmed s).isEmpty = false ∧ Text.indentation s ≤ d := by
  rcases hls : Text.outline ls with _ | ⟨⟨d, label⟩, es⟩
  · exact .inl rfl
  · by_cases hes : ∀ e ∈ es, d < e.1
    · exact .inr (.inl ⟨d, label, es, rfl, hes⟩)
    · obtain ⟨front, s, rest, rfl, hfront, hs, hd⟩ := exists_shallow hls hes
      exact .inr (.inr ⟨front, s, rest, d, label, _, rfl, hfront,
        fun e he => by simpa using List.mem_takeWhile_imp he, hs, hd⟩)

/-- **The lines that are a tree, and which tree they are.** -/
theorem read_eq_ok_iff (r : Reader) (ls : List String) (t : Tree) :
    (r.read ls).1 = .ok t ↔ ∃ d label es, Text.outline ls = (d, label) :: es ∧
      (∀ e ∈ es, d < e.1) ∧
      t = .node ⟨r.nextId, label⟩ (Rose.ofDepths (number (r.nextId + 1) es)) := by
  constructor
  · intro h
    obtain hls | ⟨d, label, es, hls, hes⟩ |
        ⟨front, s, rest, d, label, es, rfl, hfront, hes, hs, hd⟩ := cases_outline ls
    · rw [read_of_blank r hls] at h
      exact absurd h (by simp)
    · rw [read_of_deeper r hls hes] at h
      exact ⟨d, label, es, hls, hes, (Except.ok.inj h).symm⟩
    · rw [read_of_shallow r hfront hes hs hd] at h
      exact absurd h (by simp)
  · rintro ⟨d, label, es, hls, hes, rfl⟩
    rw [read_of_deeper r hls hes]

/-! ## Order and parents

The nodes of the tree are the lines, in their order, and the parent of a line is the nearest earlier
line that is indented less. Both are statements about the finished tree and the lines alone. -/

/-- The nodes in pre-order are the lines that are not blank, numbered in line order. -/
theorem values_of_read {r : Reader} {ls : List String} {t : Tree} (h : (r.read ls).1 = .ok t) :
    t.values = (number r.nextId (Text.outline ls)).map Prod.snd := by
  obtain ⟨d, label, es, hls, -, rfl⟩ := (read_eq_ok_iff r ls t).mp h
  rw [Rose.values_node, Rose.forestValues_ofDepths, hls, number, List.map_cons]

/-- The numbers of the nodes in pre-order count on from the counter. -/
theorem map_id_values_of_read {r : Reader} {ls : List String} {t : Tree}
    (h : (r.read ls).1 = .ok t) : t.values.map Node.id = List.range' r.nextId t.size := by
  have hsize : t.size = (Text.outline ls).length := by
    rw [← Rose.length_values, values_of_read h, List.length_map, length_number]
  rw [values_of_read h, List.map_map, hsize, ← map_id_number r.nextId]
  rfl

theorem labelList_of_read {r : Reader} {ls : List String} {t : Tree} (h : (r.read ls).1 = .ok t) :
    t.labelList = (Text.nonBlank ls).map Text.trimmed := by
  have hlabels := congrArg (List.map Prod.snd) (map_label_number r.nextId (Text.outline ls))
  rw [Tree.labelList_eq, values_of_read h, List.map_map]
  rw [List.map_map, Text.outline, List.map_map] at hlabels
  exact hlabels

/-- Every node stands under the nearest earlier entry that is less deep. -/
theorem map_fst_preorder_of_read {r : Reader} {ls : List String} {t : Tree}
    (h : (r.read ls).1 = .ok t) :
    (t.preorder none).map Prod.fst = Rose.parents [] (number r.nextId (Text.outline ls)) := by
  obtain ⟨d, label, es, hls, hes, rfl⟩ := (read_eq_ok_iff r ls t).mp h
  rw [hls, number, Rose.parents, Rose.preorder_node, List.map_cons]
  congr 1
  refine Rose.map_fst_forestPreorder_ofDepths _ _ _ fun e he _ => ?_
  have hlabel : (e.1, e.2.label) ∈ es := by
    rw [← map_label_number (r.nextId + 1) es]
    exact List.mem_map_of_mem he
  exact Rose.nearestShallower_cons_of_lt (hes _ hlabel)

theorem getElem?_entries (id : Nat) (ls : List String) (i : Nat) :
    (number id (Text.outline ls))[i]? =
      (Text.nonBlank ls)[i]?.map fun s => (Text.indentation s, ⟨id + i, Text.trimmed s⟩) := by
  rw [getElem?_number, Text.outline, List.getElem?_map, Option.map_map]
  rfl

/-- The node of a line stands at the line's place in the pre-order listing. -/
theorem exists_preorder_of_read {r : Reader} {ls : List String} {t : Tree}
    (h : (r.read ls).1 = .ok t) {i : Nat} {s : String} (hs : (Text.nonBlank ls)[i]? = some s) :
    ∃ below, (t.preorder none)[i]? = some (Rose.nearestShallower
        ((number r.nextId (Text.outline ls)).take i).reverse (Text.indentation s), below) ∧
      below.value = ⟨r.nextId + i, Text.trimmed s⟩ := by
  have hentry := getElem?_entries r.nextId ls i
  rw [hs, Option.map_some] at hentry
  have hvalue : ((t.preorder none).map fun e => e.2.value)[i]? =
      some ⟨r.nextId + i, Text.trimmed s⟩ := by
    rw [Rose.map_value_preorder, values_of_read h, List.getElem?_map, hentry, Option.map_some]
  rw [List.getElem?_map, Option.map_eq_some_iff] at hvalue
  obtain ⟨⟨p, below⟩, hnode, hbelow⟩ := hvalue
  have hparent := congrArg (fun l => l[i]?) (map_fst_preorder_of_read h)
  simp only [List.getElem?_map, hnode, Rose.getElem?_parents, hentry, Option.map_some,
    List.append_nil, Option.some.injEq] at hparent
  exact ⟨below, by rw [hnode, hparent], hbelow⟩

/-- **Functional correctness of reading.** Whenever a list of lines is read as a tree, the labels in
pre-order are the trimmed lines that are not blank, the first of them is the root, and the parent of
every other line is the last earlier one that is indented less. Lines are told apart by their
numbers, which count on from the counter. -/
theorem read_lines_under_nearest_shallower (r : Reader) (lines : List String) (t : Tree)
    (h : (r.read lines).1 = .ok t) :
    t.labelList = (Text.nonBlank lines).map Text.trimmed ∧
      (∃ first, (Text.nonBlank lines)[0]? = some first ∧
        t.value = ⟨r.nextId, Text.trimmed first⟩ ∧ (t.preorder none)[0]? = some (none, t)) ∧
      ∀ i s, 0 < i → (Text.nonBlank lines)[i]? = some s →
        ∃ j s', j < i ∧ (Text.nonBlank lines)[j]? = some s' ∧
          Text.indentation s' < Text.indentation s ∧
          (∀ k s'', j < k → k < i → (Text.nonBlank lines)[k]? = some s'' →
            Text.indentation s ≤ Text.indentation s'') ∧
          ∃ below, (t.preorder none)[i]? = some (some ⟨r.nextId + j, Text.trimmed s'⟩, below) ∧
            below.value = ⟨r.nextId + i, Text.trimmed s⟩ := by
  obtain ⟨d, label, es, hls, hes, ht⟩ := (read_eq_ok_iff r lines t).mp h
  obtain ⟨first, rest, hfirst, hentry, hrest⟩ := List.map_eq_cons_iff.mp hls
  obtain ⟨rfl, rfl⟩ := Prod.mk.inj hentry
  refine ⟨labelList_of_read h, ⟨first, by rw [hfirst]; rfl, by rw [ht]; rfl, by rw [ht]; simp⟩,
    fun i s hi hs => ?_⟩
  -- the root's line is earlier and less deep, so there is a nearest such line
  have hroot : ∃ e ∈ (number r.nextId (Text.outline lines)).take i, e.1 < Text.indentation s := by
    obtain ⟨i, rfl⟩ := Nat.exists_eq_succ_of_ne_zero (Nat.ne_of_gt hi)
    rw [hfirst, Nat.succ_eq_add_one, List.getElem?_cons_succ] at hs
    rw [hls, number]
    refine ⟨_, List.mem_cons_self, hes (Text.indentation s, Text.trimmed s) ?_⟩
    rw [← hrest]
    exact List.mem_map_of_mem (List.mem_of_getElem? hs)
  obtain ⟨j, e, hj, he, hdepth, hbetween, hnear⟩ := Rose.exists_nearestShallower hroot
  rw [getElem?_entries, Option.map_eq_some_iff] at he
  obtain ⟨s', hs', rfl⟩ := he
  obtain ⟨below, hbelow, hvalue⟩ := exists_preorder_of_read h hs
  refine ⟨j, s', hj, hs', hdepth, fun k s'' hjk hki hk => ?_, below, by rw [hbelow, hnear], hvalue⟩
  exact hbetween k _ hjk hki (by rw [getElem?_entries, hk, Option.map_some])

/-- Lines that fall back to a depth that has not occurred before: the last of them stands under the
third, although the second is deeper and the first is less deep. -/
theorem read_lines_under_nearest_shallower_uneven :
    ((⟨7⟩ : Reader).read ["R", "     A", " ", "   B", "    C"]).1 =
        .ok (.node ⟨7, "R"⟩ [.node ⟨8, "A"⟩ [], .node ⟨9, "B"⟩ [.node ⟨10, "C"⟩ []]]) ∧
      ∃ below : Tree, (Rose.preorder none (.node ⟨7, "R"⟩
          [.node ⟨8, "A"⟩ [], .node ⟨9, "B"⟩ [.node ⟨10, "C"⟩ []]]))[3]? =
        some (some ⟨9, "B"⟩, below) ∧ below.value = ⟨10, "C"⟩ := by
  have hls : Text.outline ["R", "     A", " ", "   B", "    C"] =
      (0, "R") :: [(5, "A"), (3, "B"), (4, "C")] := by decide
  have hread : ((⟨7⟩ : Reader).read ["R", "     A", " ", "   B", "    C"]).1 =
      .ok (.node ⟨7, "R"⟩ [.node ⟨8, "A"⟩ [], .node ⟨9, "B"⟩ [.node ⟨10, "C"⟩ []]]) := by
    rw [read_of_deeper ⟨7⟩ hls (by decide)]
    simp [number, Rose.ofDepths_cons]
  obtain ⟨j, s', hj, hs', -, hbetween, below, hbelow, hvalue⟩ :=
    (read_lines_under_nearest_shallower _ _ _ hread).2.2 3 "    C" (by decide) (by decide)
  have hj2 : ¬ j < 2 := fun hlt =>
    absurd (hbetween 2 "   B" hlt (by decide) (by decide)) (by decide)
  obtain rfl : j = 2 := by omega
  obtain rfl : "   B" = s' := Option.some.inj hs'
  exact ⟨hread, below, hbelow, hvalue⟩

end Reader

end AstCompare
