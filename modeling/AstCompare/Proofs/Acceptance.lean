import AstCompare.Proofs.Lines
import AstCompare.Proofs.Reading

/-!
# Which lines are one tree

Reading finds out late that a list of lines is no tree: a line closes one open node after the other,
and only when none is left, and a root is there, is the line refused. What this amounts to can be
said without any open node. The first line that is not blank is the root, and a line is refused if
it is indented no more than the root, wherever it stands and whatever stands between.

So the outcome is decided by three questions about the lines, and they are asked by place: which
line is the root, is there a line beside it, and which of those comes first. Places count all lines,
blank ones too, because the number in the complaint does.

## Main definitions

* `Text.RootAt`: the line at a place is the first that is not blank.
* `Text.BesideAt`: the line at a place is the first after the root that is no deeper than the root.
* `Reader.Refused`: why these lines are no tree, and the wording of it.

## Main results

* `Text.cases_lines`: lines are all blank, or stay below their root, or have a first line beside it.
* `Reader.read_accepts_iff`: what is read, and what is refused with which complaint.
-/

namespace AstCompare

/-! ## Roots and lines beside them -/

namespace Text

/-- All characters of the line are blank. -/
def IsBlankLine (s : String) : Prop :=
  ∀ c ∈ s.toList, isBlank c = true

instance (s : String) : Decidable (IsBlankLine s) :=
  decidable_of_iff (s.toList.all isBlank = true) List.all_eq_true

/-- All of the lines that are not blank are indented by more than `d`. -/
def AllDeeper (d : Nat) (ls : List String) : Prop :=
  ∀ l ∈ ls, ¬ IsBlankLine l → d < indentation l

instance (d : Nat) (ls : List String) : Decidable (AllDeeper d ls) :=
  List.decidableBAll _ ls

/-- The line at place `i` is the first that is not blank. -/
structure RootAt (ls : List String) (i : Nat) (root : String) : Prop where
  /-- It stands there. -/
  line : ls[i]? = some root
  /-- It is not blank. -/
  counts : ¬ IsBlankLine root
  /-- Whatever comes before is blank. -/
  first : ∀ l ∈ ls.take i, IsBlankLine l

/-- The line at place `j` is the first line after the root, which stands at place `i`, that is not
blank and no deeper than the root. -/
structure BesideAt (ls : List String) (i : Nat) (root : String) (j : Nat) (s : String) : Prop where
  /-- It comes after the root. -/
  later : i < j
  /-- It stands there. -/
  line : ls[j]? = some s
  /-- It is not blank. -/
  counts : ¬ IsBlankLine s
  /-- It is no deeper than the root. -/
  shallow : indentation s ≤ indentation root
  /-- Whatever stands between the root and this line is blank or deeper. -/
  first : AllDeeper (indentation root) ((ls.take j).drop (i + 1))

theorem trimmed_isEmpty_iff (s : String) : (trimmed s).isEmpty = true ↔ IsBlankLine s := by
  rw [String.isEmpty_iff, ← String.toList_eq_nil_iff, trimmed, String.toList_ofList,
    trim_eq_nil_iff, IsBlankLine]

theorem trimmed_isEmpty_eq_false_iff (s : String) :
    (trimmed s).isEmpty = false ↔ ¬ IsBlankLine s := by
  rw [← trimmed_isEmpty_iff, Bool.not_eq_true]

theorem outline_eq_nil_iff (ls : List String) : outline ls = [] ↔ ∀ l ∈ ls, IsBlankLine l := by
  rw [outline, nonBlank, List.map_eq_nil_iff, List.filter_eq_nil_iff]
  simp [← trimmed_isEmpty_iff]

/-- Being deeper, told by the entries that reading works on. -/
theorem forall_outline_iff (d : Nat) (ls : List String) :
    (∀ e ∈ outline ls, d < e.1) ↔ AllDeeper d ls := by
  rw [outline, List.forall_mem_map, nonBlank, AllDeeper]
  simp [← trimmed_isEmpty_iff]

theorem eq_take_append_drop {ls : List String} {i : Nat} {s : String} (h : ls[i]? = some s) :
    ls = ls.take i ++ s :: ls.drop (i + 1) := by
  conv_lhs => rw [← List.take_append_drop i ls, List.drop_eq_getElem?_toList_append, h]
  rfl

/-- The first of the lines with some property. -/
theorem exists_first {p : String → Prop} {ls : List String} (h : ∃ l ∈ ls, p l) :
    ∃ i s, ls[i]? = some s ∧ p s ∧ ∀ l ∈ ls.take i, ¬ p l := by
  induction ls with
  | nil => simp at h
  | cons l ls ih =>
    by_cases hl : p l
    · exact ⟨0, l, rfl, hl, by simp⟩
    · obtain ⟨m, hm, hpm⟩ := h
      have hrest : ∃ l ∈ ls, p l := by
        obtain rfl | hm := List.mem_cons.mp hm
        · exact absurd hpm hl
        · exact ⟨m, hm, hpm⟩
      obtain ⟨i, s, hs, hps, hfirst⟩ := ih hrest
      refine ⟨i + 1, s, by simpa using hs, hps, ?_⟩
      rw [List.take_succ_cons, List.forall_mem_cons]
      exact ⟨hl, hfirst⟩

namespace RootAt

variable {ls : List String} {i : Nat} {root : String}

/-- The root and the lines after it, as entries. -/
theorem outline_eq (h : RootAt ls i root) :
    outline ls = (indentation root, trimmed root) :: outline (ls.drop (i + 1)) := by
  have hfront : outline (ls.take i) = [] := (outline_eq_nil_iff _).mpr h.first
  have hroot : (trimmed root).isEmpty = false := (trimmed_isEmpty_eq_false_iff root).mpr h.counts
  conv_lhs => rw [eq_take_append_drop h.line]
  rw [outline_append, hfront, outline_cons_of_not_blank hroot, List.nil_append]

/-- The root stays the root when lines are cut off after it. -/
theorem take (h : RootAt ls i root) {j : Nat} (hij : i < j) : RootAt (ls.take j) i root where
  line := by rw [List.getElem?_take_of_lt hij, h.line]
  counts := h.counts
  first := by
    rw [List.take_take, Nat.min_eq_left (Nat.le_of_lt hij)]
    exact h.first

/-- Where not all lines are deeper than the root, there is a first one that is not. -/
theorem exists_besideAt (h : ¬ AllDeeper (indentation root) (ls.drop (i + 1))) :
    ∃ j s, BesideAt ls i root j s := by
  have hshallow : ∃ l ∈ ls.drop (i + 1), ¬ IsBlankLine l ∧ indentation l ≤ indentation root := by
    simpa [AllDeeper] using h
  obtain ⟨k, s, hs, ⟨hcounts, hle⟩, hfirst⟩ := exists_first hshallow
  rw [List.getElem?_drop] at hs
  refine ⟨i + 1 + k, s, by omega, hs, hcounts, hle, fun l hl hblank => ?_⟩
  rw [← List.take_drop] at hl
  exact Nat.lt_of_not_le fun hle => hfirst l hl ⟨hblank, hle⟩

end RootAt

/-- **Lines are all blank, or stay below their root, or have a first line beside it.** -/
theorem cases_lines (ls : List String) :
    (∀ l ∈ ls, IsBlankLine l) ∨
      ∃ i root, RootAt ls i root ∧
        (AllDeeper (indentation root) (ls.drop (i + 1)) ∨ ∃ j s, BesideAt ls i root j s) := by
  by_cases hblank : ∀ l ∈ ls, IsBlankLine l
  · exact .inl hblank
  · have hcounts : ∃ l ∈ ls, ¬ IsBlankLine l := by simpa using hblank
    obtain ⟨i, root, hroot, hnot, hfirst⟩ := exists_first hcounts
    refine .inr ⟨i, root, ⟨hroot, hnot, fun l hl => not_not.mp (hfirst l hl)⟩, ?_⟩
    by_cases hdeeper : AllDeeper (indentation root) (ls.drop (i + 1))
    · exact .inl hdeeper
    · exact .inr (RootAt.exists_besideAt hdeeper)

end Text

/-! ## What reading makes of them -/

namespace Reader

open Text

variable {ls : List String} {i j : Nat} {root s : String}

/-- Lines that stay below their root are read. -/
theorem exists_read_of_rootAt (r : Reader) (hroot : RootAt ls i root)
    (hdeeper : AllDeeper (indentation root) (ls.drop (i + 1))) : ∃ t, (r.read ls).1 = .ok t :=
  ⟨_, congrArg Prod.fst (r.read_of_deeper hroot.outline_eq ((forall_outline_iff _ _).mpr hdeeper))⟩

/-- The first line beside the root is the one that is refused. -/
theorem read_of_besideAt (r : Reader) (hroot : RootAt ls i root)
    (hbeside : BesideAt ls i root j s) :
    (r.read ls).1 = .error (.secondRoot (trimmed s) (j + 1) (trimmed root)) := by
  -- the lines up to that one are a tree of their own, and the rest does not matter
  have hfront := (hroot.take hbeside.later).outline_eq
  have hdeeper := (forall_outline_iff _ _).mpr hbeside.first
  have hcounts := (trimmed_isEmpty_eq_false_iff s).mpr hbeside.counts
  obtain ⟨hj, -⟩ := List.getElem?_eq_some_iff.mp hbeside.line
  have hplace : (ls.take j).length = j := List.length_take_of_le (Nat.le_of_lt hj)
  conv_lhs => rw [eq_take_append_drop hbeside.line]
  rw [r.read_of_shallow hfront hdeeper hcounts hbeside.shallow, hplace]

/-- Why a list of lines is no tree, and how it is told. -/
inductive Refused (ls : List String) : TreeError → String → Prop where
  /-- There is no line to be the root. -/
  | blank (hblank : ∀ l ∈ ls, IsBlankLine l) : Refused ls .noLines "no tree lines"
  /-- A line stands beside the root: the first of them is named, with the number that it has among
  all lines when they are counted from one. -/
  | beside {i j : Nat} {root s : String} (hroot : RootAt ls i root)
      (hbeside : BesideAt ls i root j s) :
      Refused ls (.secondRoot (trimmed s) (j + 1) (trimmed root))
        ("second top-level node '" ++ trimmed s ++ "' at line " ++ toString (j + 1) ++
          " (root is '" ++ trimmed root ++ "')")

/-- The three outcomes, each with what the lines are like. -/
theorem read_outcomes (r : Reader) (ls : List String) :
    ((∀ l ∈ ls, IsBlankLine l) ∧ r.read ls = (.error .noLines, r)) ∨
    (∃ i root, RootAt ls i root ∧ AllDeeper (indentation root) (ls.drop (i + 1)) ∧
      ∃ t, (r.read ls).1 = .ok t) ∨
    ∃ i root j s, RootAt ls i root ∧ BesideAt ls i root j s ∧
      (r.read ls).1 = .error (.secondRoot (trimmed s) (j + 1) (trimmed root)) := by
  obtain hblank | ⟨i, root, hroot, hdeeper | ⟨j, s, hbeside⟩⟩ := cases_lines ls
  · exact .inl ⟨hblank, r.read_of_blank ((outline_eq_nil_iff ls).mpr hblank)⟩
  · exact .inr (.inl ⟨i, root, hroot, hdeeper, r.exists_read_of_rootAt hroot hdeeper⟩)
  · exact .inr (.inr ⟨i, root, j, s, hroot, hbeside, r.read_of_besideAt hroot hbeside⟩)

/-- **What is read and what is refused.** Whatever the counter, lines are read as a tree exactly if
one of them is not blank and all later ones that are not blank are deeper than the first of these.
They are refused, with a complaint and its wording, exactly if they are all blank or the complaint
names the first line after the root that is no deeper than the root. Where all are blank the counter
does not move. -/
theorem read_accepts_iff (r : Reader) (ls : List String) :
    ((∃ t, (r.read ls).1 = .ok t) ↔
      ∃ i root, RootAt ls i root ∧ AllDeeper (indentation root) (ls.drop (i + 1))) ∧
    (∀ e wording, ((r.read ls).1 = .error e ∧ e.reason = wording) ↔ Refused ls e wording) ∧
    ((r.read ls).1 = .error .noLines → (r.read ls).2 = r) := by
  refine ⟨⟨?_, ?_⟩, fun e wording => ⟨?_, ?_⟩, fun h => ?_⟩
  · rintro ⟨t, ht⟩
    obtain ⟨-, hread⟩ | ⟨i, root, hroot, hdeeper, -⟩ | ⟨i, root, j, s, -, -, hread⟩ :=
      r.read_outcomes ls
    · rw [hread] at ht
      cases ht
    · exact ⟨i, root, hroot, hdeeper⟩
    · rw [hread] at ht
      cases ht
  · rintro ⟨i, root, hroot, hdeeper⟩
    exact r.exists_read_of_rootAt hroot hdeeper
  · rintro ⟨he, rfl⟩
    obtain ⟨hblank, hread⟩ | ⟨-, -, -, -, t, hread⟩ | ⟨i, root, j, s, hroot, hbeside, hread⟩ :=
      r.read_outcomes ls
    · rw [hread] at he
      cases he
      exact .blank hblank
    · rw [hread] at he
      cases he
    · rw [hread] at he
      cases he
      exact .beside hroot hbeside
  · intro h
    cases h with
    | blank hblank => exact ⟨by rw [r.read_of_blank ((outline_eq_nil_iff ls).mpr hblank)], rfl⟩
    | beside hroot hbeside => exact ⟨r.read_of_besideAt hroot hbeside, rfl⟩
  · obtain ⟨-, hread⟩ | ⟨-, -, -, -, t, hread⟩ | ⟨_, _, _, _, -, -, hread⟩ := r.read_outcomes ls
    · rw [hread]
    · rw [hread] at h
      cases h
    · rw [hread] at h
      cases h

/-- An indented root behind a blank line, and two lines beside it: the first of them is named, by
its place among all lines. The line before that falls back too, but not as far as the root. -/
theorem read_accepts_iff_secondRoot :
    let ls := ["", "  R", "      A", "   B", " \t", "\u00a0 C", "D"]
    RootAt ls 1 "  R" ∧ BesideAt ls 1 "  R" 5 "\u00a0 C" ∧
      ∃ e, ((⟨3⟩ : Reader).read ls).1 = .error e ∧
        e.reason = "second top-level node 'C' at line 6 (root is 'R')" := by
  intro ls
  have hroot : RootAt ls 1 "  R" := ⟨by decide, by decide, by decide⟩
  have hbeside : BesideAt ls 1 "  R" 5 "\u00a0 C" :=
    ⟨by decide, by decide, by decide, by decide, by decide⟩
  obtain ⟨hread, hwording⟩ := ((read_accepts_iff ⟨3⟩ ls).2.1 _ _).mpr (.beside hroot hbeside)
  have htrimmed : trimmed "\u00a0 C" = "C" ∧ trimmed "  R" = "R" := by decide
  refine ⟨hroot, hbeside, _, hread, hwording.trans ?_⟩
  rw [htrimmed.1, htrimmed.2]
  decide

end Reader

end AstCompare
