import AstCompare.Text.Blank
import AstCompare.Text.Lines
import Mathlib.Data.List.DropRight
import Mathlib.Data.List.TakeWhile

/-!
# Lines, blanks and labels

What can be said about a line of the form *blanks, then a label*: cutting the text gives the line
back, trimming the line gives the label back, and the blanks can be counted. A label is a text that
survives all three, which is `Text.IsLabel`.

A carriage return is the one character that a line can lose to its ending. It is blank, so a line
that ends in a label never does.

## Main definitions

* `Text.IsLabel`: a text that is not empty, has no blank at either end and no line feed in it.

## Main results

* `Text.lines_unlines`: lines that end in no carriage return are cut as they were joined.
* `Text.lines_append`: a text of complete lines can be cut by itself.
* `Text.trim_eq_nil_iff`: a text trims to nothing exactly when it holds blanks only.
* `Text.isLabel_trimmed`: what is left of a line that is not blank is a label.
* `Text.IsLabel.trimmed_append`, `Text.IsLabel.indentation_append`: a label behind blanks.
* `Text.IsLabel.forall_isBlank_of_trimmed_append`: only blanks are trimmed away.
-/

namespace AstCompare.Text

/-! ## Cutting a text -/

theorem splitLinesFrom_nil : splitLinesFrom [] [] = [] := rfl

theorem splitLinesFrom_newline (pending cs : List Char) :
    splitLinesFrom pending ('\n' :: cs) = closeLine pending :: splitLinesFrom [] cs := rfl

theorem splitLinesFrom_of_ne {c : Char} (hc : c ≠ '\n') (pending cs : List Char) :
    splitLinesFrom pending (c :: cs) = splitLinesFrom (c :: pending) cs :=
  splitLinesFrom.eq_3 _ _ _ hc

/-- Up to the next line feed all characters belong to the present line. -/
theorem splitLinesFrom_append_newline {cs : List Char} (h : '\n' ∉ cs) (pending rest : List Char) :
    splitLinesFrom pending (cs ++ '\n' :: rest) =
      closeLine (cs.reverse ++ pending) :: splitLinesFrom [] rest := by
  induction cs generalizing pending with
  | nil => simp [splitLinesFrom_newline]
  | cons c cs ih =>
    have hc : c ≠ '\n' := fun e => h (e ▸ List.mem_cons_self)
    have hcs : '\n' ∉ cs := fun m => h (List.mem_cons_of_mem c m)
    rw [List.cons_append, splitLinesFrom_of_ne hc, ih hcs, List.reverse_cons,
      List.append_assoc, List.singleton_append]

/-- What comes after a line feed is cut as if nothing came before it. -/
theorem splitLinesFrom_append (pending cs rest : List Char) :
    splitLinesFrom pending (cs ++ '\n' :: rest) =
      splitLinesFrom pending (cs ++ ['\n']) ++ splitLinesFrom [] rest := by
  induction cs generalizing pending with
  | nil => simp [splitLinesFrom_newline, splitLinesFrom_nil]
  | cons c cs ih =>
    by_cases hc : c = '\n'
    · subst hc
      simp [splitLinesFrom_newline, ih]
    · rw [List.cons_append, List.cons_append, splitLinesFrom_of_ne hc, splitLinesFrom_of_ne hc, ih]

theorem closeLine_reverse {cs : List Char} (h : cs.getLast? ≠ some '\r') :
    closeLine cs.reverse = cs := by
  rw [closeLine.eq_2, List.reverse_reverse]
  intro rest hrest
  refine h ?_
  rw [List.getLast?_eq_head?_reverse, hrest, List.head?_cons]

/-- A line feed is never part of a line. -/
theorem newline_notMem_splitLinesFrom {pending cs : List Char} (hp : '\n' ∉ pending) :
    ∀ l ∈ splitLinesFrom pending cs, '\n' ∉ l := by
  have hclose : ∀ ds : List Char, '\n' ∉ ds → '\n' ∉ closeLine ds := by
    intro ds hds
    rw [closeLine.eq_def]
    split
    · exact fun hm => hds (List.mem_cons_of_mem _ (List.mem_reverse.mp hm))
    · exact fun hm => hds (List.mem_reverse.mp hm)
  fun_induction splitLinesFrom pending cs with
  | case1 pending h => simp
  | case2 pending h => simpa using hp
  | case3 pending cs ih =>
    rw [List.forall_mem_cons]
    exact ⟨hclose pending hp, ih (by simp)⟩
  | case4 pending c cs hc ih => exact ih (by simpa using ⟨Ne.symm hc, hp⟩)

theorem newline_notMem_of_mem_lines {s l : String} (h : l ∈ lines s) : '\n' ∉ l.toList := by
  obtain ⟨cs, hcs, rfl⟩ := List.mem_map.mp h
  rw [String.toList_ofList]
  exact newline_notMem_splitLinesFrom (by simp) cs hcs

@[simp] theorem lines_empty : lines "" = [] := by
  simp [lines, splitLines, splitLinesFrom_nil]

/-- **Complete lines.** A text that is empty or ends in a line feed is cut by itself, whatever
follows it. -/
theorem lines_append {a : String} (ha : a = "" ∨ a.toList.getLast? = some '\n') (b : String) :
    lines (a ++ b) = lines a ++ lines b := by
  rcases ha with rfl | ha
  · rw [String.empty_append, lines_empty, List.nil_append]
  · obtain ⟨cs, hcs⟩ := List.getLast?_eq_some_iff.mp ha
    rw [lines, String.toList_append, hcs, List.append_assoc, List.singleton_append, splitLines,
      splitLinesFrom_append, List.map_append, lines, hcs, splitLines, lines, splitLines]

/-- One complete line. -/
theorem lines_line {l : String} (hn : '\n' ∉ l.toList) (hr : l.toList.getLast? ≠ some '\r') :
    lines (l ++ "\n") = [l] := by
  have hnl : "\n".toList = ['\n'] := rfl
  rw [lines, String.toList_append, hnl, splitLines, splitLinesFrom_append_newline hn,
    List.append_nil, closeLine_reverse hr]
  simp [splitLinesFrom_nil]

theorem unlines_cons (l : String) (ls : List String) :
    unlines (l :: ls) = l ++ "\n" ++ unlines ls := by
  simp [unlines]

/-- Joined lines are complete. -/
theorem unlines_complete (ls : List String) :
    unlines ls = "" ∨ (unlines ls).toList.getLast? = some '\n' := by
  cases ls using List.reverseRecOn with
  | nil => exact .inl rfl
  | append_singleton ls l => exact .inr (by simp [unlines])

/-- **Joining and cutting.** Lines without line feeds that do not end in a carriage return are cut
as they were joined. -/
theorem lines_unlines {ls : List String}
    (h : ∀ l ∈ ls, '\n' ∉ l.toList ∧ l.toList.getLast? ≠ some '\r') : lines (unlines ls) = ls := by
  induction ls with
  | nil => exact lines_empty
  | cons l ls ih =>
    rw [List.forall_mem_cons] at h
    rw [unlines_cons, lines_append (.inr (by simp)), lines_line h.1.1 h.1.2, ih h.2,
      List.singleton_append]

/-! ## Trimming -/

theorem trimStart_eq_self {cs : List Char} (h : ∀ c ∈ cs.head?, isBlank c = false) :
    trimStart cs = cs := by
  cases cs with
  | nil => rfl
  | cons c cs => exact List.dropWhile_cons_of_neg (by simpa using h c rfl)

theorem trimEnd_eq_self {cs : List Char} (h : ∀ c ∈ cs.getLast?, isBlank c = false) :
    trimEnd cs = cs := by
  refine List.rdropWhile_eq_self_iff.mpr fun hne => ?_
  simpa using h _ (List.getLast?_eq_some_getLast hne)

theorem trimEnd_cons {c : Char} (hc : isBlank c = false) (cs : List Char) :
    trimEnd (c :: cs) = c :: trimEnd cs := by
  rw [trimEnd, List.reverse_cons, List.dropWhile_append, trimEnd]
  split
  · rename_i hnil
    rw [List.isEmpty_iff.mp hnil]
    simp [hc]
  · simp

theorem trimEnd_eq_nil_iff {cs : List Char} : trimEnd cs = [] ↔ ∀ c ∈ cs, isBlank c := by
  rw [trimEnd, List.reverse_eq_nil_iff, List.dropWhile_eq_nil_iff]
  simp

/-- A text trims to nothing exactly when all its characters are blank. -/
theorem trim_eq_nil_iff {cs : List Char} : trim cs = [] ↔ ∀ c ∈ cs, isBlank c := by
  rw [trim, trimEnd_eq_nil_iff]
  induction cs with
  | nil => simp [trimStart]
  | cons c cs ih =>
    by_cases h : isBlank c
    · simp [trimStart, h] at ih ⊢
      exact ih
    · simp [trimStart, h]

theorem trim_sublist (cs : List Char) : (trim cs).Sublist cs :=
  (List.rdropWhile_prefix ..).sublist.trans (List.dropWhile_sublist isBlank)

/-- A trimmed text starts with no blank. -/
theorem head?_trim {cs : List Char} {c : Char} (h : c ∈ (trim cs).head?) : isBlank c = false := by
  rw [trim] at h
  have hhead := List.head?_dropWhile_not isBlank cs
  rw [← trimStart] at hhead
  cases hs : trimStart cs with
  | nil => simp [hs, trimEnd] at h
  | cons d ds =>
    rw [hs, List.head?_cons] at hhead
    have hd : isBlank d = false := by simpa using hhead
    rw [hs, trimEnd_cons hd] at h
    obtain rfl : d = c := by simpa using h
    exact hd

/-- A trimmed text ends in no blank. -/
theorem getLast?_trim {cs : List Char} {c : Char} (h : c ∈ (trim cs).getLast?) :
    isBlank c = false := by
  have hne : trim cs ≠ [] := by
    rintro hnil
    simp [hnil] at h
  have hlast := List.rdropWhile_last_not isBlank (trimStart cs) hne
  rw [Option.mem_def, List.getLast?_eq_some_getLast hne, Option.some.injEq] at h
  rw [← h]
  exact Bool.eq_false_iff.mpr hlast

/-! ## Labels -/

/-- A text that one line can give a node: it is not empty, has no blank at either end and holds no
line feed. -/
structure IsLabel (s : String) : Prop where
  /-- There is a text. -/
  ne_empty : s ≠ ""
  /-- It starts with no blank. -/
  head : ∀ c ∈ s.toList.head?, isBlank c = false
  /-- It ends in no blank. -/
  last : ∀ c ∈ s.toList.getLast?, isBlank c = false
  /-- It is on one line. -/
  one_line : '\n' ∉ s.toList

theorem forall_mem_iff_all_not_isBlank (o : Option Char) :
    (∀ c ∈ o, isBlank c = false) ↔ (o.all fun c => !isBlank c) = true := by
  cases o <;> simp

instance (s : String) : Decidable (IsLabel s) :=
  decidable_of_iff (s ≠ "" ∧ (s.toList.head?.all fun c => !isBlank c) = true ∧
      (s.toList.getLast?.all fun c => !isBlank c) = true ∧ '\n' ∉ s.toList) <| by
    rw [← forall_mem_iff_all_not_isBlank, ← forall_mem_iff_all_not_isBlank]
    exact ⟨fun ⟨h₁, h₂, h₃, h₄⟩ => ⟨h₁, h₂, h₃, h₄⟩, fun h => ⟨h.1, h.2, h.3, h.4⟩⟩

/-- What is left of a line that is not blank is a label. -/
theorem isLabel_trimmed {s : String} (hn : '\n' ∉ s.toList) (hs : (trimmed s).isEmpty = false) :
    IsLabel (trimmed s) where
  ne_empty := by
    rintro h
    simp [h] at hs
  head c hc := by
    rw [trimmed, String.toList_ofList] at hc
    exact head?_trim hc
  last c hc := by
    rw [trimmed, String.toList_ofList] at hc
    exact getLast?_trim hc
  one_line hm := by
    rw [trimmed, String.toList_ofList] at hm
    exact hn ((trim_sublist _).subset hm)

namespace IsLabel

variable {s : String}

theorem toList_ne_nil (h : IsLabel s) : s.toList ≠ [] := by
  simpa using h.ne_empty

/-- A line that ends in a label does not end in a carriage return. -/
theorem getLast?_append_ne (h : IsLabel s) (u : String) : (u ++ s).toList.getLast? ≠ some '\r' := by
  rw [String.toList_append, List.getLast?_append_of_ne_nil _ h.toList_ne_nil]
  intro hr
  exact absurd (h.last '\r' hr) (by decide)

/-- In front of a label nothing but leading blanks is lost. -/
theorem trim_append (h : IsLabel s) (cs : List Char) :
    trim (cs ++ s.toList) = trimStart cs ++ s.toList := by
  have hstart : trimStart (cs ++ s.toList) = trimStart cs ++ s.toList := by
    rw [trimStart, List.dropWhile_append]
    split
    · rename_i hnil
      rw [trimStart, List.isEmpty_iff.mp hnil, List.nil_append]
      exact trimStart_eq_self h.head
    · rfl
  rw [trim, hstart]
  refine trimEnd_eq_self fun c hc => h.last c ?_
  rwa [List.getLast?_append_of_ne_nil _ h.toList_ne_nil] at hc

/-- A line that ends in a label is not blank. -/
theorem trimmed_append_isEmpty (h : IsLabel s) (u : String) :
    (trimmed (u ++ s)).isEmpty = false := by
  rw [Bool.eq_false_iff, ne_eq, String.isEmpty_iff, ← String.toList_eq_nil_iff, trimmed,
    String.toList_ofList, String.toList_append, h.trim_append]
  simp [h.ne_empty]

/-- **A label behind blanks is found again.** -/
theorem trimmed_append (h : IsLabel s) {u : String} (hu : ∀ c ∈ u.toList, isBlank c = true) :
    trimmed (u ++ s) = s := by
  rw [trimmed, String.toList_append, h.trim_append, trimStart, List.dropWhile_eq_nil_iff.mpr hu,
    List.nil_append, String.ofList_toList]

/-- **The blanks before a label are counted.** -/
theorem indentation_append (h : IsLabel s) {u : String} (hu : ∀ c ∈ u.toList, isBlank c = true) :
    indentation (u ++ s) = u.toList.length := by
  have hnone : s.toList.takeWhile isBlank = [] := by
    cases hs : s.toList with
    | nil => rfl
    | cons c cs => exact List.takeWhile_cons_of_neg (by simpa using h.head c (by simp [hs]))
  rw [indentation, String.toList_append, List.takeWhile_append_of_pos hu, hnone, List.append_nil]

theorem trimmed_eq (h : IsLabel s) : trimmed s = s := by
  simpa using h.trimmed_append (u := "") (by simp)

theorem indentation_eq (h : IsLabel s) : indentation s = 0 := by
  simpa using h.indentation_append (u := "") (by simp)

/-- **Only blanks are trimmed away.** If the label alone is left of a line, all before it was
blank. -/
theorem forall_isBlank_of_trimmed_append (h : IsLabel s) {u : String}
    (hu : trimmed (u ++ s) = s) : ∀ c ∈ u.toList, isBlank c = true := by
  have htrim := congrArg String.toList hu
  rw [trimmed, String.toList_ofList, String.toList_append, h.trim_append] at htrim
  exact List.dropWhile_eq_nil_iff.mp (List.append_left_eq_self.mp htrim)

end IsLabel

end AstCompare.Text
