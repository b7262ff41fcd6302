import AstCompare.Tree.Basic

/-!
# Sets of labels

A set of labels is kept as the strictly ascending list of its members, in the order of code points.
That order is also the order in which the program lists labels, and it makes two sets equal as
values as soon as they have the same members.

## Main definitions

* `LabelSet.ofList`: the set of the labels in a list.
* `LabelSet.contains`, `LabelSet.difference`: membership, and the members not in another set.
* `Tree.labels`: the labels that occur in a tree.

## Main results

* `LabelSet.mem_ofList`: membership in `ofList` is membership in the list.
* `LabelSet.mem_difference`: membership in `difference`, which is one pass over both lists.
* `LabelSet.ext`: sets with the same members are equal.
-/

namespace AstCompare

/-- Strictly ascending lists of labels. -/
structure LabelSet where
  labels : List String
  ascending : labels.Pairwise (· < ·)

namespace LabelSet

/-- Keeps one of each run of equal neighbours. -/
def dedupSorted : List String → List String
  | [] => []
  | [a] => [a]
  | a :: b :: rest => if a = b then dedupSorted (b :: rest) else a :: dedupSorted (b :: rest)

theorem mem_dedupSorted {x : String} {l : List String} : x ∈ dedupSorted l ↔ x ∈ l := by
  fun_induction dedupSorted l with
  | case1 => simp
  | case2 => simp
  | case3 a rest ih => simp [ih]
  | case4 a b rest h ih => simp [ih]

theorem pairwise_dedupSorted {l : List String} (h : l.Pairwise (· ≤ ·)) :
    (dedupSorted l).Pairwise (· < ·) := by
  fun_induction dedupSorted l with
  | case1 => exact .nil
  | case2 => simp
  | case3 a rest ih => exact ih (List.Pairwise.of_cons h)
  | case4 a b rest hab ih =>
    refine List.pairwise_cons.2 ⟨fun x hx => ?_, ih (List.Pairwise.of_cons h)⟩
    have hab' : a < b :=
      Std.lt_of_le_of_ne (List.rel_of_pairwise_cons h (by simp)) hab
    rcases List.mem_cons.1 (mem_dedupSorted.1 hx) with rfl | hx'
    · exact hab'
    · exact Std.lt_of_lt_of_le hab'
        (List.rel_of_pairwise_cons (List.Pairwise.of_cons h) hx')

/-- The order of code points, as the test used for sorting. -/
def inOrder (a b : String) : Bool := decide (a ≤ b)

theorem pairwise_sort (l : List String) : (l.mergeSort inOrder).Pairwise (· ≤ ·) := by
  have h := @List.pairwise_mergeSort _ inOrder
    (fun a b c hab hbc => by
      simp only [inOrder, decide_eq_true_eq] at *
      exact Std.le_trans hab hbc)
    (fun a b => by
      simp only [inOrder, Bool.or_eq_true, decide_eq_true_eq]
      exact Std.le_total) l
  exact h.imp fun hab => by simpa [inOrder] using hab

/-- The set of the labels in a list. -/
def ofList (l : List String) : LabelSet :=
  ⟨dedupSorted (l.mergeSort inOrder), pairwise_dedupSorted (pairwise_sort l)⟩

/-- The label is in the set. -/
def contains (s : LabelSet) (x : String) : Bool :=
  s.labels.contains x

instance : Membership String LabelSet where
  mem s x := x ∈ s.labels

theorem mem_iff {s : LabelSet} {x : String} : x ∈ s ↔ x ∈ s.labels := Iff.rfl

@[simp]
theorem mem_ofList {x : String} {l : List String} : x ∈ ofList l ↔ x ∈ l := by
  simp [mem_iff, ofList, mem_dedupSorted]

@[simp]
theorem contains_iff {s : LabelSet} {x : String} : s.contains x ↔ x ∈ s := by
  simp [contains, mem_iff]

/-- The head of an ascending list is not in its tail. -/
theorem notMem_tail {a : String} {l : List String} (h : (a :: l).Pairwise (· < ·)) : a ∉ l :=
  fun hmem => Std.lt_irrefl (List.rel_of_pairwise_cons h hmem)

theorem eq_of_mem_iff {l m : List String} (hl : l.Pairwise (· < ·)) (hm : m.Pairwise (· < ·))
    (h : ∀ x, x ∈ l ↔ x ∈ m) : l = m := by
  induction l generalizing m with
  | nil => exact (List.eq_nil_iff_forall_not_mem.2 fun x hx => by simpa using (h x).2 hx).symm
  | cons a l ih =>
    cases m with
    | nil => simpa using (h a).1 List.mem_cons_self
    | cons b m =>
      have hab : a = b := by
        rcases List.mem_cons.1 ((h a).1 List.mem_cons_self) with rfl | ham
        · rfl
        · rcases List.mem_cons.1 ((h b).2 List.mem_cons_self) with rfl | hbl
          · rfl
          · exact absurd (Std.lt_trans (List.rel_of_pairwise_cons hl hbl)
              (List.rel_of_pairwise_cons hm ham)) Std.lt_irrefl
      subst hab
      have ha := notMem_tail hl
      have ha' := notMem_tail hm
      rw [ih hl.of_cons hm.of_cons fun x => by have := h x; grind]

theorem ext {s t : LabelSet} (h : ∀ x, x ∈ s ↔ x ∈ t) : s = t := by
  cases s with
  | mk l hl =>
    cases t with
    | mk m hm =>
      have : l = m := eq_of_mem_iff hl hm h
      subst this
      rfl

/-- The number of labels. -/
def size (s : LabelSet) : Nat :=
  s.labels.length

/-- The labels of the first list that are not in the second, found in one pass over two ascending
lists. -/
def without : List String → List String → List String
  | [], _ => []
  | a :: as, [] => a :: as
  | a :: as, b :: bs =>
    if a < b then a :: without as (b :: bs)
    else if a = b then without as bs
    else without (a :: as) bs

theorem sublist_without (l m : List String) : (without l m).Sublist l := by
  fun_induction without l m with
  | case1 => exact .slnil
  | case2 => exact .refl _
  | case3 _ _ _ _ _ ih => exact ih.cons_cons _
  | case4 _ _ _ _ ih => exact ih.cons _
  | case5 _ _ _ _ _ _ ih => exact ih

/-- A label that comes before the first one of an ascending list is not in it. -/
theorem notMem_of_lt {a b : String} {l : List String} (hl : (b :: l).Pairwise (· < ·)) (h : a < b) :
    a ∉ b :: l := by
  intro hmem
  rcases List.mem_cons.1 hmem with rfl | ha
  · exact Std.lt_irrefl h
  · exact Std.lt_irrefl (Std.lt_trans h (List.rel_of_pairwise_cons hl ha))

theorem mem_without {l m : List String} (hl : l.Pairwise (· < ·)) (hm : m.Pairwise (· < ·))
    {x : String} : x ∈ without l m ↔ x ∈ l ∧ x ∉ m := by
  fun_induction without l m with
  | case1 => simp
  | case2 => simp
  | case3 a as b bs h ih =>
    have ha := notMem_of_lt hm h
    have := ih hl.of_cons hm
    grind
  | case4 as b bs h ih =>
    have hb := notMem_tail hl
    have := ih hl.of_cons hm.of_cons
    grind
  | case5 a as b bs hlt hne ih =>
    have hb := notMem_of_lt hl (Std.lt_of_le_of_ne (Std.not_lt.1 hlt) (Ne.symm hne))
    have := ih hl hm.of_cons
    grind

/-- The members that are not in the other set. -/
def difference (s t : LabelSet) : LabelSet :=
  ⟨without s.labels t.labels, s.ascending.sublist (sublist_without _ _)⟩

@[simp]
theorem mem_difference {s t : LabelSet} {x : String} : x ∈ s.difference t ↔ x ∈ s ∧ x ∉ t :=
  mem_without s.ascending t.ascending

end LabelSet

/-- The labels that occur in a tree. -/
def Tree.labels (t : Tree) : LabelSet :=
  .ofList t.labelList

end AstCompare
