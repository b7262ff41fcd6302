import AstCompare.LabelSet
import AstCompare.Proofs.Rose
import AstCompare.Proofs.TextOrder
import Mathlib.Data.List.Perm.Subperm

/-!
# Trees as sets of labels

Before two trees are compared, each is flattened: its labels are collected by the walk, sorted, and
of equal labels one is kept. What is lost is how the labels nest and how often they occur. The file
says what is left, in terms of the recursive listing of the nodes and not of the walk, the sorting
or the merging.

The size of the set against the number of nodes tells whether a label occurs twice. This is an
equivalence, since a set of labels is a list without repetition whose members are those of the
listing: it can be laid into the listing, and it fills the listing exactly if that has no repetition
either.

## Main definitions

* `Text.Ascending`: texts in ascending order, by code points and by bytes.

## Main results

* `LabelSet.size_ofList_le`, `LabelSet.size_ofList_eq_length_iff`: the size of the set of a list.
* `LabelSet.ofList_append_difference`: the two differences lead from one set to the other.
* `Tree.labels_flatten`: the set of labels of a tree, and the differences of two of them.
-/

namespace AstCompare

/-! ## Order -/

/-- The texts stand in strictly ascending order, whether code points or bytes are compared. -/
structure Text.Ascending (l : List String) : Prop where
  byCodePoints : l.Pairwise fun s t => codePoints s < codePoints t
  byBytes : l.Pairwise fun s t => bytes s < bytes t

namespace LabelSet

theorem ascending_labels (s : LabelSet) : Text.Ascending s.labels where
  byCodePoints := s.ascending.imp fun h => (Text.lt_iff_codePoints_lt _ _).mp h
  byBytes := s.ascending.imp fun h => (Text.lt_iff_bytes_lt _ _).mp h

/-! ## Size -/

theorem nodup_labels (s : LabelSet) : s.labels.Nodup := by
  refine s.ascending.imp ?_
  rintro x _ hlt rfl
  exact Std.lt_irrefl hlt

theorem labels_ofList_subset (l : List String) : (ofList l).labels ⊆ l :=
  fun _ hx => mem_ofList.mp hx

theorem subset_labels_ofList (l : List String) : l ⊆ (ofList l).labels :=
  fun _ hx => mem_ofList.mpr hx

/-- A set is no larger than any list that it is made of. -/
theorem size_ofList_le (l : List String) : (ofList l).size ≤ l.length :=
  ((nodup_labels _).subperm (labels_ofList_subset l)).length_le

/-- Only a list that names no label twice makes a set of its own length. -/
theorem size_ofList_eq_length_iff (l : List String) : (ofList l).size = l.length ↔ l.Nodup := by
  constructor
  · intro hsize
    have hsub := (nodup_labels _).subperm (labels_ofList_subset l)
    exact (hsub.perm_of_length_le (Nat.le_of_eq hsize.symm)).nodup_iff.mp (nodup_labels _)
  · intro hl
    exact Nat.le_antisymm (size_ofList_le l) (hl.subperm (subset_labels_ofList l)).length_le

/-! ## Differences -/

theorem disjoint_differences (s t : LabelSet) :
    (s.difference t).labels.Disjoint (t.difference s).labels := by
  intro x hs ht
  exact (mem_difference.mp ht).2 (mem_difference.mp hs).1

/-- **From one set to the other.** Leaving out what is only in the first set and adding what is only
in the second one gives the second one. -/
theorem ofList_append_difference (s t : LabelSet) :
    ofList ((s.difference (s.difference t)).labels ++ (t.difference s).labels) = t := by
  refine ext fun x => ?_
  rw [mem_ofList, List.mem_append, ← mem_iff, ← mem_iff, mem_difference, mem_difference,
    mem_difference]
  by_cases hs : x ∈ s
  · simp [hs]
  · simp [hs]

end LabelSet

/-! ## Labels of trees -/

namespace Tree

theorem mem_labels_iff (t : Tree) (x : String) : x ∈ t.labels ↔ ∃ n ∈ t.values, n.label = x := by
  rw [labels, LabelSet.mem_ofList, labelList_eq, List.mem_map]

theorem count_eq_length_labelList (t : Tree) : t.count = t.labelList.length := by
  rw [labelList_eq, List.length_map, Rose.length_values, Rose.count_eq_size]

theorem size_labels_le (t : Tree) : t.labels.size ≤ t.count := by
  rw [count_eq_length_labelList]
  exact LabelSet.size_ofList_le _

theorem size_labels_eq_count_iff (t : Tree) :
    t.labels.size = t.count ↔ t.values.Pairwise fun m n => m.label ≠ n.label := by
  rw [count_eq_length_labelList, labels, LabelSet.size_ofList_eq_length_iff, labelList_eq,
    List.Nodup, List.pairwise_map]

/-- **Flattening.** The order of code points is the order of bytes. The set of a tree holds exactly
the labels of its nodes and lists them in ascending order; it is no larger than the number of nodes,
and as large as that exactly if no two nodes carry the same label. For two trees, the differences of
the sets are in ascending order and have nothing in common, and they lead from one set to the
other. -/
theorem labels_flatten :
    (∀ s t : String, Text.codePoints s < Text.codePoints t ↔ Text.bytes s < Text.bytes t) ∧
    (∀ t : Tree,
      (∀ x, t.labels.contains x = true ↔ ∃ n ∈ t.values, n.label = x) ∧
      (∀ x, x ∈ t.labels.labels ↔ ∃ n ∈ t.values, n.label = x) ∧
      Text.Ascending t.labels.labels ∧
      t.labels.size ≤ t.count ∧
      (t.labels.size = t.count ↔ t.values.Pairwise fun m n => m.label ≠ n.label)) ∧
    ∀ a b : Tree,
      (∀ x, x ∈ (a.labels.difference b.labels).labels ↔
        (∃ n ∈ a.values, n.label = x) ∧ ¬∃ n ∈ b.values, n.label = x) ∧
      Text.Ascending (a.labels.difference b.labels).labels ∧
      Text.Ascending (b.labels.difference a.labels).labels ∧
      (a.labels.difference b.labels).labels.Disjoint (b.labels.difference a.labels).labels ∧
      LabelSet.ofList ((a.labels.difference (a.labels.difference b.labels)).labels ++
        (b.labels.difference a.labels).labels) = b.labels := by
  refine ⟨fun s t => ?_, fun t => ⟨fun x => ?_, mem_labels_iff t, t.labels.ascending_labels,
    size_labels_le t, size_labels_eq_count_iff t⟩, fun a b => ⟨fun x => ?_,
    LabelSet.ascending_labels _, LabelSet.ascending_labels _, LabelSet.disjoint_differences _ _,
    LabelSet.ofList_append_difference _ _⟩⟩
  · rw [← Text.lt_iff_codePoints_lt, Text.lt_iff_bytes_lt]
  · rw [LabelSet.contains_iff, mem_labels_iff]
  · rw [← LabelSet.mem_iff, LabelSet.mem_difference, mem_labels_iff, mem_labels_iff]

end Tree

end AstCompare
