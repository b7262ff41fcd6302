import AstCompare.Analysis
import AstCompare.Proofs.RoundTrip
import Mathlib.Data.List.TakeDrop

/-!
# Dumps that are written and analysed

The markers of a dump stand among the lines of its trees, and nothing keeps a node from carrying the
text of a marker as its label. It does no harm, except at one place. A line below the root starts
with a blank, so it is never a marker, and after the second marker none is looked for. What is left
is the root of the first tree: if its label is the second marker, the first section ends before it
has begun.

## Main definitions

* `Dump.write`: the text of a dump with two given trees behind a preamble.

## Main results

* `Dump.cutAt_append`: a marker is found where it first stands.
* `Tree.marker_notMem_indentedLines`: below the root no line is a marker.
* `Dump.analysis_write`: analysing what was written gives the two trees back, or fails in the one
  way described above.
-/

namespace AstCompare

namespace Dump

/-- The text of a dump with these two trees behind a preamble. -/
def write (preamble unit : String) (before after : Tree) : String :=
  preamble ++ "Original AST:\n" ++ before.toIndented unit ++ "Optimized AST:\n" ++
    after.toIndented unit

/-! ## Markers -/

/-- **A marker is found where it first stands.** -/
theorem cutAt_append {marker : String} {front : List String} (h : marker ∉ front)
    (rest : List String) : cutAt marker (front ++ marker :: rest) = some (front, rest) := by
  have hfront : ∀ l ∈ front, (l != marker) = true := by
    intro l hl
    rw [bne_iff_ne]
    rintro rfl
    exact h hl
  rw [cutAt, List.span_eq_takeWhile_dropWhile, List.takeWhile_append_of_pos hfront,
    List.dropWhile_append_of_pos hfront]
  simp

/-- Lines with both markers in order. -/
theorem ofLines_append {front before after : List String} (hfront : "Original AST:" ∉ front)
    (hbefore : "Optimized AST:" ∉ before) :
    ofLines (front ++ "Original AST:" :: before ++ "Optimized AST:" :: after) =
      .ok ⟨before, after⟩ := by
  have hfirst : cutAt Section.before.marker
      (front ++ "Original AST:" :: (before ++ "Optimized AST:" :: after)) =
        some (front, before ++ "Optimized AST:" :: after) := cutAt_append hfront _
  have hsecond : cutAt Section.after.marker (before ++ "Optimized AST:" :: after) =
      some (before, after) := cutAt_append hbefore _
  rw [List.append_assoc, List.cons_append, ofLines, hfirst]
  simp only [hsecond]

end Dump

/-! ## The lines of a written dump -/

namespace Tree

/-- Below the root every line starts with a blank, so no line but that of the root can be equal to a
text that starts with none. -/
theorem marker_notMem_indentedLines {t : Tree} (h : t.WellLabelled) {unit marker : String}
    (hne : unit ≠ "") (hblank : ∀ c ∈ unit.toList, Text.isBlank c = true)
    (hmarker : Text.indentation marker = 0) (hroot : t.label ≠ marker) :
    marker ∉ t.indentedLines unit := by
  obtain ⟨n, cs⟩ := t
  rw [indentedLines_node, List.mem_cons, not_or]
  refine ⟨fun hl => hroot hl.symm, fun hm => ?_⟩
  obtain ⟨e, he, hline⟩ := List.mem_map.mp hm
  have hlabel : Text.IsLabel e.2.label := h.of_mem_levels (by
    rw [Rose.levels_node]
    exact List.mem_cons_of_mem _ he)
  have hdepth := congrArg Prod.fst (entry_indentedLine hblank hlabel)
  rw [hline, hmarker] at hdepth
  have hlevel : 1 ≤ e.1 := Rose.le_of_mem_forestLevels he
  have hw : 0 < unit.toList.length := List.length_pos_iff.mpr (by simpa using hne)
  exact Nat.ne_of_lt (Nat.mul_pos hlevel hw) hdepth

theorem toIndented_complete (unit : String) (t : Tree) :
    t.toIndented unit = "" ∨ (t.toIndented unit).toList.getLast? = some '\n' := by
  rw [toIndented_eq_unlines]
  exact Text.unlines_complete _

end Tree

namespace Dump

/-- The lines of a written dump, piece by piece. -/
theorem lines_write {preamble unit : String} {before after : Tree}
    (hpre : preamble = "" ∨ preamble.toList.getLast? = some '\n') (hunit : '\n' ∉ unit.toList)
    (hb : before.WellLabelled) (ha : after.WellLabelled) :
    Text.lines (write preamble unit before after) =
      Text.lines preamble ++ "Original AST:" :: before.indentedLines unit ++
        "Optimized AST:" :: after.indentedLines unit := by
  have horig : Text.lines "Original AST:\n" = ["Original AST:"] := by decide
  have hopt : Text.lines "Optimized AST:\n" = ["Optimized AST:"] := by decide
  rw [write, String.append_assoc, String.append_assoc, String.append_assoc,
    Text.lines_append hpre, Text.lines_append (.inr (by decide)),
    Text.lines_append (before.toIndented_complete unit), Text.lines_append (.inr (by decide)),
    horig, hopt, hb.lines_toIndented hunit, ha.lines_toIndented hunit]
  simp

end Dump

namespace Analysis

/-! ## Analysing -/

theorem readSection_of_read {d : Dump} {s : Section} {r : Reader} {t : Tree}
    (h : (r.read (d.lines s)).1 = .ok t) :
    readSection d s r = .ok (t, (r.read (d.lines s)).2) := by
  rw [readSection]
  split
  · rename_i t' r' hread
    rw [hread] at h
    rw [hread, Except.ok.inj h]
  · rename_i e r' hread
    rw [hread] at h
    exact absurd h (by simp)

/-- The sections are read one after the other, and the first one that fails is the outcome. -/
theorem ofDump_cases (d : Dump) :
    (∃ s r e, readSection d s r = .error e ∧ ofDump d = .error e) ∨
      ∃ before after, readSection d .before {} = .ok before ∧
        readSection d .after before.2 = .ok after ∧ ofDump d = .ok ⟨before.1, after.1⟩ := by
  cases hb : readSection d .before {} with
  | error e => exact .inl ⟨_, _, e, hb, by rw [ofDump, hb]; rfl⟩
  | ok before =>
    cases ha : readSection d .after before.2 with
    | error e => exact .inl ⟨_, _, e, ha, by rw [ofDump, hb]; simp only [bind, Except.bind, ha]⟩
    | ok after =>
      refine .inr ⟨before, after, rfl, ha, ?_⟩
      rw [ofDump, hb]
      simp only [bind, Except.bind, ha]
      rfl

/-- Two sections that are trees are an analysis. -/
theorem ofDump_of_read {d : Dump} {before after : Tree}
    (hb : (({} : Reader).read d.before).1 = .ok before)
    (ha : ((({} : Reader).read d.before).2.read d.after).1 = .ok after) :
    ofDump d = .ok ⟨before, after⟩ := by
  have hfirst := readSection_of_read (s := .before) hb
  have hsecond := readSection_of_read (s := .after) ha
  rw [ofDump, hfirst]
  simp only [bind, Except.bind]
  rw [show d.lines .before = d.before from rfl, hsecond]
  rfl

/-- Two sections that stay below their roots are an analysis. -/
theorem exists_ofDump_of_outline {d : Dump} {e e' : Nat × String} {es es' : List (Nat × String)}
    (hb : Text.outline d.before = e :: es) (hes : ∀ x ∈ es, e.1 < x.1)
    (ha : Text.outline d.after = e' :: es') (hes' : ∀ x ∈ es', e'.1 < x.1) :
    ∃ a, ofDump d = .ok a :=
  ⟨_, ofDump_of_read (congrArg Prod.fst (Reader.read_of_deeper _ hb hes))
    (congrArg Prod.fst (Reader.read_of_deeper _ ha hes'))⟩

/-- A first section without a line that counts is malformed. -/
theorem ofDump_of_blank {d : Dump} (h : Text.outline d.before = []) :
    ofDump d = .error (.malformedTree "original" "no tree lines") := by
  have hread : ({} : Reader).read (d.lines .before) = (.error .noLines, {}) :=
    Reader.read_of_blank {} h
  rw [ofDump, readSection, hread]
  rfl

/-- The label sets that are reported depend on the labels of the two trees only. -/
theorem added_and_removed_of_sameShape {a : Analysis} {before after : Tree}
    (hb : before.sameShape a.before = true) (ha : after.sameShape a.after = true) :
    a.added = after.labels.difference before.labels ∧
      a.removed = before.labels.difference after.labels := by
  have hbl : a.before.labels = before.labels := by
    rw [Tree.labels, Tree.labels, Tree.labelList_eq_of_sameShape hb]
  have hal : a.after.labels = after.labels := by
    rw [Tree.labels, Tree.labels, Tree.labelList_eq_of_sameShape ha]
  rw [added, removed, reference, hbl, hal]
  exact ⟨rfl, rfl⟩

end Analysis

namespace Dump

/-- **Round trip of a whole dump.** For any two well labelled trees, any unit of blanks and any
preamble of complete lines without the first marker: if the root of the first tree does not carry
the second marker, the written dump is analysed to trees of the same shape and to their label
differences; if it does, the first section is found to be malformed. -/
theorem analysis_write (preamble unit : String) (before after : Tree)
    (hpre : preamble = "" ∨ preamble.toList.getLast? = some '\n')
    (hmarker : "Original AST:" ∉ Text.lines preamble) (hunit : '\n' ∉ unit.toList)
    (hne : unit ≠ "") (hblank : ∀ c ∈ unit.toList, Text.isBlank c = true)
    (hb : before.WellLabelled) (ha : after.WellLabelled) :
    (before.label ≠ "Optimized AST:" →
      ∃ a, Analysis.ofText (write preamble unit before after) = .ok a ∧
        before.sameShape a.before = true ∧ after.sameShape a.after = true ∧
        a.added = after.labels.difference before.labels ∧
        a.removed = before.labels.difference after.labels) ∧
    (before.label = "Optimized AST:" →
      Analysis.ofText (write preamble unit before after) =
        .error (.malformedTree "original" "no tree lines")) := by
  constructor
  · intro hroot
    have hnot := Tree.marker_notMem_indentedLines hb hne hblank (by decide) hroot
    have hsplit : ofText (write preamble unit before after) =
        .ok ⟨before.indentedLines unit, after.indentedLines unit⟩ := by
      rw [ofText, lines_write hpre hunit hb ha]
      exact ofLines_append hmarker hnot
    obtain ⟨b, hbread, hbshape⟩ := Tree.read_toIndented_of_blank hb hunit hne hblank {}
    obtain ⟨c, hcread, hcshape⟩ := Tree.read_toIndented_of_blank ha hunit hne hblank
      (({} : Reader).read (before.indentedLines unit)).2
    rw [hb.lines_toIndented hunit] at hbread
    rw [ha.lines_toIndented hunit] at hcread
    refine ⟨⟨b, c⟩, ?_, hbshape, hcshape, Analysis.added_and_removed_of_sameShape hbshape hcshape⟩
    rw [Analysis.ofText, hsplit]
    exact Analysis.ofDump_of_read hbread hcread
  · intro hroot
    obtain ⟨n, cs⟩ := before
    -- the line of the root is taken for the marker, and no line is left before it
    have hlines : (Text.lines preamble ++ "Original AST:" :: Tree.indentedLines unit (.node n cs) ++
          "Optimized AST:" :: after.indentedLines unit) =
        Text.lines preamble ++ "Original AST:" :: [] ++ "Optimized AST:" ::
          ((Rose.forestLevels 1 cs).map (Tree.indentedLine unit) ++
            "Optimized AST:" :: after.indentedLines unit) := by
      rw [Tree.indentedLines_node, show n.label = "Optimized AST:" from hroot]
      simp
    obtain ⟨rest, hsplit⟩ : ∃ rest,
        ofText (write preamble unit (.node n cs) after) = .ok ⟨[], rest⟩ := by
      rw [ofText, lines_write hpre hunit hb ha, hlines]
      exact ⟨_, ofLines_append hmarker (by simp)⟩
    rw [Analysis.ofText, hsplit]
    exact Analysis.ofDump_of_blank rfl

/-- Markers among the labels below a root and at the root of the second tree do no harm. -/
theorem analysis_write_markers :
    "Original AST:" ∉ Text.lines "log\r\nOptimized AST:\n" ∧
      ∃ a, Analysis.ofText (write "log\r\nOptimized AST:\n" "\t"
            (.node ⟨0, "R"⟩ [.node ⟨0, "Optimized AST:"⟩ []]) (.node ⟨0, "Original AST:"⟩ [])) =
          .ok a ∧
        Tree.sameShape (.node ⟨0, "R"⟩ [.node ⟨0, "Optimized AST:"⟩ []]) a.before = true ∧
        Tree.sameShape (.node ⟨0, "Original AST:"⟩ []) a.after = true := by
  have hb : Tree.WellLabelled (.node ⟨0, "R"⟩ [.node ⟨0, "Optimized AST:"⟩ []]) := by
    intro n hn
    simp only [Rose.values_node, Rose.forestValues_cons, Rose.forestValues_nil, List.append_nil,
      List.mem_cons, List.not_mem_nil, or_false] at hn
    rcases hn with rfl | rfl <;> decide
  have ha : Tree.WellLabelled (.node ⟨0, "Original AST:"⟩ []) := by
    intro n hn
    simp only [Rose.values_node, Rose.forestValues_nil, List.mem_singleton] at hn
    subst hn
    decide
  have hmarker : "Original AST:" ∉ Text.lines "log\r\nOptimized AST:\n" := by decide
  obtain ⟨a, hok, hbefore, hafter, -⟩ := (analysis_write "log\r\nOptimized AST:\n" "\t" _ _
    (.inr (by decide)) hmarker (by decide) (by decide) (List.all_eq_true.mp (by decide)) hb ha).1
    (by decide)
  exact ⟨hmarker, a, hok, hbefore, hafter⟩

end Dump

end AstCompare
