import AstCompare.Proofs.Reading
import Mathlib.Algebra.GroupWithZero.Nat

/-!
# The numbers that a reader gives out

A reader numbers the nodes that it opens, in the order of their lines, and goes on counting from one
call to the next. A call that fails keeps the numbers of the nodes it has opened, so no history of
calls can make the reader give out a number twice.

Two orders have to agree for the trees to be numbered in pre-order. Nodes are opened in the order of
the lines and put under their parents when they are closed; that the finished tree lists them as
they were opened is `Reader.map_id_values_of_read`. What is left is bookkeeping: how far one call
moves the counter (`Reader.Attempt.nextId_after`), and by induction how far a history moves it.

## Main definitions

* `Reader.Attempt`: one call of a reader, with the counter before and after it.
* `Reader.history`: the calls of one reader, one after the other.
* `Reader.Attempt.opened`: the number of nodes that a call has opened, told by its lines.

## Main results

* `Reader.flatMap_ids_sublist`: the numbers in all the trees, in the order of the calls, are among
  those from the first counter up to the last.
* `Reader.history_numbers`: the counter, the numbers of every tree, and no number twice.
-/

namespace AstCompare

theorem Text.length_outline (ls : List String) : (outline ls).length = (nonBlank ls).length :=
  List.length_map ..

namespace Reader

/-! ## One call -/

/-- What reading has come to: nothing to read, a tree, or a line beside the root. -/
theorem read_cases (r : Reader) (ls : List String) :
    (Text.nonBlank ls = [] ∧ r.read ls = (.error .noLines, r)) ∨
    (∃ t, r.read ls = (.ok t, ⟨r.nextId + (Text.nonBlank ls).length⟩)) ∨
    ∃ front s rest root, ls = front ++ s :: rest ∧ (Text.trimmed s).isEmpty = false ∧
      r.read ls = (.error (.secondRoot (Text.trimmed s) (front.length + 1) root),
        ⟨r.nextId + (Text.nonBlank front).length⟩) := by
  simp only [← Text.length_outline]
  obtain hls | ⟨d, label, es, hls, hes⟩ |
      ⟨front, s, rest, d, label, es, rfl, hfront, hes, hs, hd⟩ := cases_outline ls
  · exact .inl ⟨List.map_eq_nil_iff.mp hls, read_of_blank r hls⟩
  · refine .inr (.inl
      ⟨.node ⟨r.nextId, label⟩ (Rose.ofDepths (Reading.number (r.nextId + 1) es)), ?_⟩)
    rw [read_of_deeper r hls hes, hls, List.length_cons, Nat.add_assoc, Nat.add_comm 1]
  · refine .inr (.inr ⟨front, s, rest, label, rfl, hs, ?_⟩)
    rw [read_of_shallow r hfront hes hs hd, hfront, List.length_cons, Nat.add_assoc, Nat.add_comm 1]

/-- A call of a reader: the counter before it, the lines, what came out, and the counter after
it. -/
structure Attempt where
  before : Reader
  lines : List String
  outcome : Except TreeError Tree
  after : Reader

namespace Attempt

/-- The call of a reader with these lines. -/
def make (r : Reader) (ls : List String) : Attempt :=
  ⟨r, ls, (r.read ls).1, (r.read ls).2⟩

/-- The lines that were taken in: those before the line that was refused, or all of them. -/
def taken (c : Attempt) : List String :=
  match c.outcome with
  | .error (.secondRoot _ line _) => c.lines.take (line - 1)
  | _ => c.lines

/-- The number of nodes that were opened: one for each line taken in that is not blank. -/
def opened (c : Attempt) : Nat :=
  (Text.nonBlank c.taken).length

/-- The numbers in the tree that came out, in pre-order, if one did. -/
def ids (c : Attempt) : List Nat :=
  match c.outcome with
  | .ok t => t.nodeList.map Node.id
  | .error _ => []

theorem opened_le_length (c : Attempt) : c.opened ≤ c.lines.length := by
  have htaken : c.taken.Sublist c.lines := by
    unfold taken
    split
    · exact List.take_sublist _ _
    · exact .refl _
  exact (List.filter_sublist.trans htaken).length_le

/-- **One call** moves the counter by the number of nodes it has opened. -/
theorem nextId_after (r : Reader) (ls : List String) :
    (make r ls).after.nextId = r.nextId + (make r ls).opened := by
  obtain ⟨hblank, hread⟩ | ⟨t, hread⟩ | ⟨front, s, rest, root, rfl, -, hread⟩ := r.read_cases ls
  · simp [make, opened, taken, hread, hblank]
  · simp [make, opened, taken, hread]
  · simp [make, opened, taken, hread]

/-- The numbers in the tree that comes out are those of the nodes that were opened. -/
theorem ids_of_ok {r : Reader} {ls : List String} {t : Tree} (h : (make r ls).outcome = .ok t) :
    (make r ls).ids = List.range' r.nextId t.count ∧ t.count = (make r ls).opened := by
  have hread : (r.read ls).1 = .ok t := h
  have hids := map_id_values_of_read hread
  have hlabels := congrArg List.length (labelList_of_read hread)
  constructor
  · simp only [ids, h]
    rw [Tree.nodeList_eq_values, hids, Rose.count_eq_size]
  · rw [Rose.count_eq_size, ← Rose.length_values, ← List.length_map Node.label, ← Tree.labelList_eq,
      hlabels, List.length_map]
    simp only [opened, taken, h]
    rfl

theorem ids_sublist (r : Reader) (ls : List String) :
    (make r ls).ids.Sublist (List.range' r.nextId (make r ls).opened) := by
  cases h : (make r ls).outcome with
  | error e =>
    simp only [ids, h]
    exact List.nil_sublist _
  | ok t =>
    obtain ⟨hids, hcount⟩ := ids_of_ok h
    rw [hids, hcount]

/-- A call that fails had nothing to read, or names the line before which it stopped. -/
theorem cases_of_error {r : Reader} {ls : List String} {e : TreeError}
    (h : (make r ls).outcome = .error e) :
    (e = .noLines ∧ Text.nonBlank ls = []) ∨
      ∃ i s root, ls[i]? = some s ∧ (Text.trimmed s).isEmpty = false ∧
        e = .secondRoot (Text.trimmed s) (i + 1) root ∧
        (make r ls).opened = (Text.nonBlank (ls.take i)).length := by
  have hread : (r.read ls).1 = .error e := h
  obtain ⟨hblank, hcase⟩ | ⟨t, hcase⟩ | ⟨front, s, rest, root, rfl, hs, hcase⟩ := r.read_cases ls
  · rw [hcase] at hread
    exact .inl ⟨(Except.error.inj hread).symm, hblank⟩
  · rw [hcase] at hread
    cases hread
  · rw [hcase] at hread
    obtain rfl := Except.error.inj hread
    refine .inr ⟨front.length, s, root, by simp, hs, rfl, ?_⟩
    simp only [opened, taken, h]
    rfl

end Attempt

/-! ## Histories -/

/-- The calls of a reader that reads these lists of lines, one after the other. -/
def history (r : Reader) : List (List String) → List Attempt
  | [] => []
  | ls :: rest => .make r ls :: history (Attempt.make r ls).after rest

/-- The number of nodes that a row of calls has opened. -/
def openedIn (calls : List Attempt) : Nat :=
  (calls.map Attempt.opened).sum

@[simp] theorem openedIn_nil : openedIn [] = 0 := rfl

@[simp] theorem openedIn_cons (c : Attempt) (calls : List Attempt) :
    openedIn (c :: calls) = c.opened + openedIn calls := by
  simp [openedIn]

theorem openedIn_append (calls calls' : List Attempt) :
    openedIn (calls ++ calls') = openedIn calls + openedIn calls' := by
  simp [openedIn]

/-- **Every call of a history** starts where the calls before it have left the counter. -/
theorem exists_make_of_history {r : Reader} {lists : List (List String)}
    {earlier later : List Attempt} {c : Attempt} (h : r.history lists = earlier ++ c :: later) :
    ∃ ls, c = .make ⟨r.nextId + openedIn earlier⟩ ls := by
  induction lists generalizing r earlier with
  | nil => simp [history] at h
  | cons ls rest ih =>
    rw [history] at h
    cases earlier with
    | nil =>
      obtain ⟨rfl, -⟩ := List.cons.inj h
      exact ⟨ls, rfl⟩
    | cons first earlier =>
      obtain ⟨rfl, hrest⟩ := List.cons.inj h
      obtain ⟨ls', rfl⟩ := ih hrest
      exact ⟨ls', by rw [Attempt.nextId_after, openedIn_cons, Nat.add_assoc]⟩

theorem openedIn_history_le (r : Reader) (lists : List (List String)) :
    openedIn (r.history lists) ≤ (lists.map List.length).sum := by
  induction lists generalizing r with
  | nil => simp [history]
  | cons ls rest ih =>
    rw [history, openedIn_cons, List.map_cons, List.sum_cons]
    exact Nat.add_le_add (Attempt.opened_le_length _) (ih _)

/-- **The numbers in all trees of a history,** call after call, are among those that the counter has
passed, in their order. -/
theorem flatMap_ids_sublist (r : Reader) (lists : List (List String)) :
    ((r.history lists).flatMap Attempt.ids).Sublist
      (List.range' r.nextId (openedIn (r.history lists))) := by
  induction lists generalizing r with
  | nil => simp [history]
  | cons ls rest ih =>
    rw [history, List.flatMap_cons, openedIn_cons, ← List.range'_append_1]
    refine (Attempt.ids_sublist r ls).append ?_
    rw [← Attempt.nextId_after]
    exact ih _

theorem map_lines_history (r : Reader) (lists : List (List String)) :
    (r.history lists).map Attempt.lines = lists := by
  induction lists generalizing r with
  | nil => rfl
  | cons ls rest ih => rw [history, List.map_cons, ih, Attempt.make]

/-- **Numbers over a whole history.** Let a fresh reader read any row of lists of lines. Each list
is read by one call, and the counter before and after a call is the number of nodes that have been
opened by then. A call that yields a tree opens one node for each line that is not blank, and the
numbers in the tree count on, in pre-order, from the counter as it stood before the call. A call
that fails has nothing to read, or opens one node for each line that is not blank before the line
that it names. No number occurs twice in the trees that come out, and the counter never exceeds the
number of lines. -/
theorem history_numbers (lists : List (List String)) :
    (({} : Reader).history lists).map Attempt.lines = lists ∧
    (∀ earlier c later, ({} : Reader).history lists = earlier ++ c :: later →
      (c.outcome, c.after) = c.before.read c.lines ∧
      c.before.nextId = openedIn earlier ∧
      c.after.nextId = openedIn (earlier ++ [c]) ∧
      (∀ t, c.outcome = .ok t → c.opened = (Text.nonBlank c.lines).length ∧
        t.nodeList.map Node.id = List.range' c.before.nextId t.count) ∧
      ∀ e, c.outcome = .error e → (e = .noLines ∧ Text.nonBlank c.lines = [] ∧ c.opened = 0) ∨
        ∃ i s root, c.lines[i]? = some s ∧ (Text.trimmed s).isEmpty = false ∧
          e = .secondRoot (Text.trimmed s) (i + 1) root ∧
          c.opened = (Text.nonBlank (c.lines.take i)).length) ∧
    ((({} : Reader).history lists).flatMap Attempt.ids).Nodup ∧
    openedIn (({} : Reader).history lists) ≤ (lists.map List.length).sum := by
  refine ⟨map_lines_history _ _, fun earlier c later h => ?_,
    (flatMap_ids_sublist _ _).nodup List.nodup_range', openedIn_history_le _ _⟩
  obtain ⟨ls, rfl⟩ := exists_make_of_history h
  refine ⟨rfl, Nat.zero_add _, ?_, fun t ht => ⟨?_, ?_⟩, fun e he => ?_⟩
  · rw [Attempt.nextId_after, openedIn_append, openedIn_cons]
    simp
  · simp only [Attempt.opened, Attempt.taken, ht]
  · obtain ⟨hids, -⟩ := Attempt.ids_of_ok ht
    simp only [Attempt.ids, ht] at hids
    exact hids
  · obtain ⟨rfl, hblank⟩ | hline := Attempt.cases_of_error he
    · refine .inl ⟨rfl, hblank, ?_⟩
      simp only [Attempt.opened, Attempt.taken, he]
      exact congrArg List.length hblank
    · exact .inr hline

/-- A tree, a list that falls back to its root, a list of blanks, and a tree again: the second tree
starts with the number after those that the failed call has used up. -/
theorem history_numbers_across_failures :
    ∃ first failed blank second, ({} : Reader).history
        [["X", "  Y"], ["A", " B", "", "C", " D"], [" ", ""], ["X", "  Y"]] =
        [first, failed, blank, second] ∧
      failed.outcome = .error (.secondRoot "C" 4 "A") ∧ blank.outcome = .error .noLines ∧
      ∃ t, second.outcome = .ok t ∧ t.nodeList.map Node.id = List.range' 4 t.count := by
  have houtline : Text.outline ["X", "  Y"] = (0, "X") :: [(2, "Y")] := by decide
  have hfirst : (({} : Reader).read ["X", "  Y"]).2 = ⟨2⟩ :=
    congrArg Prod.snd (read_of_deeper {} houtline (by decide))
  have hfailed : (⟨2⟩ : Reader).read ["A", " B", "", "C", " D"] =
      (.error (.secondRoot "C" 4 "A"), ⟨4⟩) :=
    have hfront : Text.outline ["A", " B", ""] = (0, "A") :: [(1, "B")] := by decide
    read_of_shallow ⟨2⟩ hfront (by decide) (by decide) (by decide)
  have hblank : (⟨4⟩ : Reader).read [" ", ""] = (.error .noLines, ⟨4⟩) :=
    read_of_blank ⟨4⟩ (by decide)
  have hsecond : ∃ t, ((⟨4⟩ : Reader).read ["X", "  Y"]).1 = .ok t :=
    ⟨_, congrArg Prod.fst (read_of_deeper ⟨4⟩ houtline (by decide))⟩
  have hhistory : ({} : Reader).history
      [["X", "  Y"], ["A", " B", "", "C", " D"], [" ", ""], ["X", "  Y"]] =
      [.make {} ["X", "  Y"], .make ⟨2⟩ ["A", " B", "", "C", " D"], .make ⟨4⟩ [" ", ""],
        .make ⟨4⟩ ["X", "  Y"]] := by
    simp only [history, Attempt.make, hfirst, hfailed, hblank]
  obtain ⟨t, ht⟩ := hsecond
  obtain ⟨-, -, -, hok, -⟩ := (history_numbers _).2.1 [_, _, _] _ [] hhistory
  exact ⟨_, _, _, _, hhistory, congrArg Prod.fst hfailed, congrArg Prod.fst hblank, t, ht,
    (hok t ht).2⟩

end Reader

end AstCompare
