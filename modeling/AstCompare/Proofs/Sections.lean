import AstCompare.Proofs.Provenance

/-!
# How a text falls into sections

A dump is described by a grammar of lines: a preamble, the first marker, the first section, the
second marker, the second section. Markers may be repeated, stand in the wrong order, follow each
other directly or come last, and the grammar says what all this means with two words only. The first
marker is the first one there is, so it is not in the preamble; the second one is the first after
it, so it is not in the first section. Nothing is asked of the second section.

The same split can be made by places: find the place of each marker, and take the slices between
them. Then there is something to go wrong, because a slice has to stay within the lines.
`Dump.bySlices` makes the split this way and gives up where a slice does not; it never does.

## Line endings

Splitting and all that follows see a text only through its lines. A line feed with a carriage return
in front of it ends a line just as a line feed alone does, so texts without carriage returns may be
given some, at any of their line feeds, and nothing changes.

## Main definitions

* `Dump.SplitsAs`: the grammar.
* `Dump.bySlices`: the split by places.
* `Text.withReturns`: a text with carriage returns before some of its line feeds.

## Main results

* `Dump.cutAt_eq_some_iff`, `Dump.cutAt_eq_none_iff`: what one marker does.
* `Dump.ofText_is_marker_grammar`: splitting a text is the grammar.
* `Text.lines_withReturns`, `Analysis.ofText_withReturns`: lines and analyses do not depend on the
  line endings.
-/

namespace AstCompare

/-! ## The grammar -/

namespace Dump

variable {marker : String} {ls front rest preamble preamble' : List String} {d d' : Dump}

/-- The lines are a preamble and the two sections of the dump, each section behind its marker, and
both markers are the first of their kind that could be meant. -/
structure SplitsAs (ls preamble : List String) (d : Dump) : Prop where
  /-- The five parts in their order. -/
  parts : ls = preamble ++ ["Original AST:"] ++ d.before ++ ["Optimized AST:"] ++ d.after
  /-- No earlier line is the first marker. -/
  first : "Original AST:" ∉ preamble
  /-- No earlier line after the first marker is the second one. -/
  second : "Optimized AST:" ∉ d.before

/-- **One marker.** Lines are cut where the marker first stands. -/
theorem cutAt_eq_some_iff :
    cutAt marker ls = some (front, rest) ↔ ls = front ++ marker :: rest ∧ marker ∉ front := by
  constructor
  · intro h
    rw [cutAt, List.span_eq_takeWhile_dropWhile] at h
    cases hdrop : ls.dropWhile (· != marker) with
    | nil => simp [hdrop] at h
    | cons l after =>
      have hl : l = marker := by
        have hhead := List.head?_dropWhile_not (· != marker) ls
        rw [hdrop] at hhead
        simpa using hhead
      rw [hdrop] at h
      obtain ⟨rfl, rfl⟩ := Prod.mk.inj (Option.some.inj h)
      refine ⟨?_, fun hmem => ?_⟩
      · subst hl
        rw [← hdrop, List.takeWhile_append_dropWhile]
      · simpa using List.mem_takeWhile_imp hmem
  · rintro ⟨rfl, hfront⟩
    exact cutAt_append hfront rest

theorem cutAt_eq_none_iff : cutAt marker ls = none ↔ marker ∉ ls := by
  constructor
  · intro h hmem
    obtain ⟨front, rest, rfl, hfront⟩ := List.eq_append_cons_of_mem hmem
    rw [cutAt_append hfront] at h
    cases h
  · intro h
    cases hcut : cutAt marker ls with
    | none => rfl
    | some parts =>
      obtain ⟨hls, -⟩ := cutAt_eq_some_iff.mp hcut
      exact absurd (by simp [hls]) h

/-- What the two cuts find in lines that follow the grammar. -/
theorem SplitsAs.cutAt_eq (h : SplitsAs ls preamble d) :
    cutAt "Original AST:" ls = some (preamble, d.before ++ "Optimized AST:" :: d.after) ∧
      cutAt "Optimized AST:" (d.before ++ "Optimized AST:" :: d.after) = some (d.before, d.after) :=
  ⟨cutAt_eq_some_iff.mpr ⟨by simp [h.parts], h.first⟩, cutAt_append h.second _⟩

/-- **The grammar is unambiguous.** -/
theorem SplitsAs.unique (h : SplitsAs ls preamble d) (h' : SplitsAs ls preamble' d') :
    preamble = preamble' ∧ d = d' := by
  obtain ⟨hfirst, hsecond⟩ := h.cutAt_eq
  obtain ⟨hfirst', hsecond'⟩ := h'.cutAt_eq
  obtain ⟨hpreamble, hrest⟩ := Prod.mk.inj (Option.some.inj (hfirst.symm.trans hfirst'))
  rw [hrest] at hsecond
  obtain ⟨hbefore, hafter⟩ := Prod.mk.inj (Option.some.inj (hsecond.symm.trans hsecond'))
  exact ⟨hpreamble, congrArg₂ Dump.mk hbefore hafter⟩

theorem ofLines_eq_ok_iff : ofLines ls = .ok d ↔ ∃ preamble, SplitsAs ls preamble d := by
  constructor
  · intro h
    rw [ofLines] at h
    cases hfirst : cutAt Section.before.marker ls with
    | none => simp [hfirst] at h
    | some parts =>
      obtain ⟨preamble, rest⟩ := parts
      cases hsecond : cutAt Section.after.marker rest with
      | none => simp [hfirst, hsecond] at h
      | some sections =>
        simp only [hfirst, hsecond, Except.ok.injEq] at h
        subst h
        obtain ⟨hls, hpreamble⟩ := cutAt_eq_some_iff.mp hfirst
        obtain ⟨hrest, hbefore⟩ := cutAt_eq_some_iff.mp hsecond
        exact ⟨preamble, by simp [hls, hrest, Section.marker], hpreamble, hbefore⟩
  · rintro ⟨preamble, h⟩
    rw [h.parts, ← ofLines_append h.first h.second]
    simp

theorem ofLines_eq_error_before_iff :
    ofLines ls = .error .before ↔ "Original AST:" ∉ ls := by
  have hnone : cutAt Section.before.marker ls = none ↔ "Original AST:" ∉ ls := cutAt_eq_none_iff
  rw [← hnone, ofLines]
  cases cutAt Section.before.marker ls with
  | none => simp
  | some parts => cases hsecond : cutAt Section.after.marker parts.2 <;> simp [hsecond]

theorem ofLines_eq_error_after_iff :
    ofLines ls = .error .after ↔ ∃ preamble rest, ls = preamble ++ "Original AST:" :: rest ∧
      "Original AST:" ∉ preamble ∧ "Optimized AST:" ∉ rest := by
  constructor
  · intro h
    rw [ofLines] at h
    cases hfirst : cutAt Section.before.marker ls with
    | none => simp [hfirst] at h
    | some parts =>
      obtain ⟨hls, hpreamble⟩ := cutAt_eq_some_iff.mp hfirst
      refine ⟨parts.1, parts.2, hls, hpreamble, cutAt_eq_none_iff.mp ?_⟩
      cases hsecond : cutAt Section.after.marker parts.2 with
      | none => exact hsecond
      | some sections => simp [hfirst, hsecond] at h
  · rintro ⟨preamble, rest, rfl, hpreamble, hrest⟩
    have hfirst : cutAt Section.before.marker (preamble ++ "Original AST:" :: rest) =
        some (preamble, rest) := cutAt_append hpreamble rest
    have hsecond : cutAt Section.after.marker rest = none := cutAt_eq_none_iff.mpr hrest
    simp [ofLines, hfirst, hsecond]

/-! ## Places and slices -/

/-- The place of the first line that is the marker, from place `start` on. -/
def place? (marker : String) (ls : List String) (start : Nat) : Option Nat :=
  ((ls.drop start).findIdx? (· == marker)).map (· + start)

/-- The lines from place `i` up to place `j`, unless these are out of order or there are not so many
lines. -/
def slice? (ls : List String) (i j : Nat) : Option (List String) :=
  if i ≤ j ∧ j ≤ ls.length then some ((ls.take j).drop i) else none

/-- The split by places. There is none if a slice leaves the lines. -/
def bySlices (ls : List String) : Option (Except Section Dump) :=
  match place? Section.before.marker ls 0 with
  | none => some (.error .before)
  | some i =>
    match place? Section.after.marker ls (i + 1) with
    | none => some (.error .after)
    | some j => do
      let before ← slice? ls (i + 1) j
      let after ← slice? ls (j + 1) ls.length
      return .ok ⟨before, after⟩

theorem findIdx?_of_notMem (h : marker ∉ ls) : ls.findIdx? (· == marker) = none := by
  rw [List.findIdx?_eq_none_iff]
  intro l hl
  refine beq_eq_false_iff_ne.mpr ?_
  rintro rfl
  exact h hl

/-- The place of a marker is the number of lines before it. -/
theorem place?_eq (marker : String) (ls : List String) (start : Nat) :
    place? marker ls start =
      (cutAt marker (ls.drop start)).map fun parts => parts.1.length + start := by
  rw [place?]
  cases hcut : cutAt marker (ls.drop start) with
  | none =>
    rw [findIdx?_of_notMem (cutAt_eq_none_iff.mp hcut)]
    rfl
  | some parts =>
    obtain ⟨hls, hfront⟩ := cutAt_eq_some_iff.mp hcut
    rw [hls, List.findIdx?_append, findIdx?_of_notMem hfront, List.findIdx?_cons, beq_self_eq_true]
    simp

/-- A slice that starts after some lines and ends before the others. -/
theorem slice?_append (xs ys zs : List String) {i j : Nat} (hi : i = xs.length)
    (hj : j = xs.length + ys.length) : slice? (xs ++ ys ++ zs) i j = some ys := by
  subst hi hj
  rw [slice?, if_pos (by simp), ← List.length_append, List.take_left, List.drop_left]

/-- **Slices stay within bounds,** and the split by places is the split at the markers. -/
theorem bySlices_eq (ls : List String) : bySlices ls = some (ofLines ls) := by
  rw [bySlices, place?_eq, List.drop_zero, ofLines]
  cases hfirst : cutAt Section.before.marker ls with
  | none => rfl
  | some parts =>
    obtain ⟨preamble, rest⟩ := parts
    obtain ⟨hls, -⟩ := cutAt_eq_some_iff.mp hfirst
    have hrest : ls.drop (preamble.length + 1) = rest := by
      rw [hls, ← List.drop_drop, List.drop_left, List.drop_one, List.tail_cons]
    simp only [Option.map_some, Nat.add_zero, place?_eq, hrest]
    cases hsecond : cutAt Section.after.marker rest with
    | none => rfl
    | some sections =>
      obtain ⟨before, after⟩ := sections
      obtain ⟨rfl, -⟩ := cutAt_eq_some_iff.mp hsecond
      have hbefore : slice? ls (preamble.length + 1) (before.length + (preamble.length + 1)) =
          some before := by
        have hcut : ls = (preamble ++ [Section.before.marker]) ++ before ++
            (Section.after.marker :: after) := by simp [hls]
        rw [hcut]
        exact slice?_append _ _ _ (by simp) (by simp; omega)
      have hafter : slice? ls (before.length + (preamble.length + 1) + 1) ls.length =
          some after := by
        have hcut :
            ls = (preamble ++ [Section.before.marker] ++ before ++ [Section.after.marker]) ++
              after ++ [] := by simp [hls]
        rw [hcut]
        exact slice?_append _ _ _ (by simp; omega) (by simp; omega)
      simp only [Option.map_some, hbefore, hafter]
      rfl

end Dump

/-! ## Missing markers -/

theorem Section.marker_inj {s t : Section} (h : s.marker = t.marker) : s = t := by
  cases s <;> cases t <;> simp_all [Section.marker]

namespace Analysis

/-- Reading the trees of a dump never complains about a marker. -/
theorem ofDump_ne_missingMarker (d : Dump) (m : String) : ofDump d ≠ .error (.missingMarker m) := by
  have hsection : ∀ s r, readSection d s r ≠ .error (.missingMarker m) := by
    intro s r h
    rw [readSection] at h
    split at h <;> cases h
  intro h
  obtain ⟨s, r, e, he, hdump⟩ | ⟨before, after, -, -, hdump⟩ := ofDump_cases d
  · rw [hdump] at h
    obtain rfl := Except.error.inj h
    exact hsection s r he
  · rw [hdump] at h
    cases h

/-- The marker that a complaint names is that of the section which is missing. -/
theorem ofText_eq_missingMarker_iff (text : String) (s : Section) :
    ofText text = .error (.missingMarker s.marker) ↔ Dump.ofText text = .error s := by
  rw [ofText]
  cases Dump.ofText text with
  | error missing =>
    constructor
    · intro h
      have hmarker : missing.marker = s.marker := Failure.missingMarker.inj (Except.error.inj h)
      rw [Section.marker_inj hmarker]
    · intro h
      rw [Except.error.inj h]
  | ok d =>
    constructor
    · intro h
      exact absurd h (ofDump_ne_missingMarker d _)
    · intro h
      cases h

end Analysis

namespace Dump

/-- **Splitting is the grammar of the markers.** A text is split into a dump exactly if its lines
are a preamble and the two sections of the dump behind their markers, where the first marker is not
in the preamble and the second one not in the first section, and there is only one way to see them
so. The first marker is reported missing exactly if no line is that marker, and the second one
exactly if there is a first marker and no later line is the second one. Taking slices between the
places of the markers gives the same outcome and never leaves the lines. -/
theorem ofText_is_marker_grammar (text : String) :
    (∀ d, ofText text = .ok d ↔ ∃ preamble, SplitsAs (Text.lines text) preamble d) ∧
    (∀ preamble preamble' d d', SplitsAs (Text.lines text) preamble d →
      SplitsAs (Text.lines text) preamble' d' → preamble = preamble' ∧ d = d') ∧
    (ofText text = .error .before ↔ "Original AST:" ∉ Text.lines text) ∧
    (ofText text = .error .after ↔ ∃ preamble rest,
      Text.lines text = preamble ++ "Original AST:" :: rest ∧ "Original AST:" ∉ preamble ∧
        "Optimized AST:" ∉ rest) ∧
    (∀ s : Section, Analysis.ofText text = .error (.missingMarker s.marker) ↔
      ofText text = .error s) ∧
    bySlices (Text.lines text) = some (ofText text) :=
  ⟨fun _ => ofLines_eq_ok_iff, fun _ _ _ _ h h' => h.unique h', ofLines_eq_error_before_iff,
    ofLines_eq_error_after_iff, Analysis.ofText_eq_missingMarker_iff text, bySlices_eq _⟩

/-- Markers that are repeated, stand in the wrong order and follow each other directly. -/
theorem ofText_is_marker_grammar_repeated :
    SplitsAs
        (Text.lines
          "Optimized AST:\nOriginal AST:\r\nOriginal AST:\nOptimized AST:\nOptimized AST:")
        ["Optimized AST:"] ⟨["Original AST:"], ["Optimized AST:"]⟩ ∧
      ∀ preamble d, SplitsAs
          (Text.lines
            "Optimized AST:\nOriginal AST:\r\nOriginal AST:\nOptimized AST:\nOptimized AST:")
          preamble d →
        preamble = ["Optimized AST:"] ∧ d = ⟨["Original AST:"], ["Optimized AST:"]⟩ := by
  have hsplits : SplitsAs
      (Text.lines "Optimized AST:\nOriginal AST:\r\nOriginal AST:\nOptimized AST:\nOptimized AST:")
      ["Optimized AST:"] ⟨["Original AST:"], ["Optimized AST:"]⟩ :=
    ⟨by decide, by decide, by decide⟩
  exact ⟨hsplits, fun _ _ h => (ofText_is_marker_grammar _).2.1 _ _ _ _ h hsplits⟩

end Dump

/-! ## Line endings -/

namespace Text

/-- The characters with a carriage return before each line feed whose place is marked. Places count
from `i`. -/
def returnsFrom (places : Nat → Bool) (i : Nat) (cs : List Char) : List Char :=
  (cs.zipIdx i).flatMap fun e => if e.1 = '\n' ∧ places e.2 then ['\r', '\n'] else [e.1]

/-- The text with a carriage return before each of its line feeds whose place is marked. -/
def withReturns (places : Nat → Bool) (s : String) : String :=
  String.ofList (returnsFrom places 0 s.toList)

theorem returnsFrom_cons (places : Nat → Bool) (i : Nat) (c : Char) (cs : List Char) :
    returnsFrom places i (c :: cs) =
      (if c = '\n' ∧ places i then ['\r', '\n'] else [c]) ++ returnsFrom places (i + 1) cs := by
  rw [returnsFrom, List.zipIdx_cons, List.flatMap_cons, returnsFrom]

theorem closeLine_of_notMem {cs : List Char} (h : '\r' ∉ cs) : closeLine cs = cs.reverse := by
  rw [closeLine.eq_2]
  rintro rest rfl
  exact h List.mem_cons_self

/-- **One line feed or two characters.** With a line that has no carriage return in it so far, the
carriage return before a line feed is dropped again. -/
theorem splitLinesFrom_return {pending : List Char} (hp : '\r' ∉ pending) (cs : List Char) :
    splitLinesFrom pending ('\r' :: '\n' :: cs) = splitLinesFrom pending ('\n' :: cs) := by
  rw [splitLinesFrom_of_ne (by decide), splitLinesFrom_newline, splitLinesFrom_newline,
    closeLine_of_notMem hp, closeLine]

/-- All line feeds, with the characters of the present line carried along. -/
theorem splitLinesFrom_returnsFrom (places : Nat → Bool) {pending cs : List Char}
    (hp : '\r' ∉ pending) (hcs : '\r' ∉ cs) (i : Nat) :
    splitLinesFrom pending (returnsFrom places i cs) = splitLinesFrom pending cs := by
  induction cs generalizing pending i with
  | nil => rfl
  | cons c cs ih =>
    rw [List.mem_cons, not_or] at hcs
    rw [returnsFrom_cons]
    by_cases hc : c = '\n'
    · subst hc
      have hrest : splitLinesFrom [] (returnsFrom places (i + 1) cs) = splitLinesFrom [] cs :=
        ih List.not_mem_nil hcs.2 (i + 1)
      split
      · rw [List.cons_append, List.singleton_append, splitLinesFrom_return hp,
          splitLinesFrom_newline, splitLinesFrom_newline, hrest]
      · rw [List.singleton_append, splitLinesFrom_newline, splitLinesFrom_newline, hrest]
    · have hpending : '\r' ∉ c :: pending := by simpa using ⟨hcs.1, hp⟩
      rw [if_neg (fun h => hc h.1), List.singleton_append, splitLinesFrom_of_ne hc,
        splitLinesFrom_of_ne hc, ih hpending hcs.2]

/-- **Carriage returns before line feeds do not change the lines.** -/
theorem lines_withReturns {s : String} (h : '\r' ∉ s.toList) (places : Nat → Bool) :
    lines (withReturns places s) = lines s := by
  rw [lines, withReturns, String.toList_ofList, splitLines,
    splitLinesFrom_returnsFrom places List.not_mem_nil h, lines, splitLines]

end Text

namespace Analysis

/-- **Line endings do not matter.** If a text without carriage returns is given one before each of
some of its line feeds, it is split into the same sections, or lacks the same marker, and its
analysis is the same: the same trees with the same numbers, and so the same graphs and label sets,
or the same failure. The same holds for two files with these texts, wherever they are. -/
theorem ofText_withReturns (text : String) (places : Nat → Bool) (h : '\r' ∉ text.toList) :
    Dump.ofText (Text.withReturns places text) = Dump.ofText text ∧
    ofText (Text.withReturns places text) = ofText text ∧
    ∀ (host : Host) (input : String) (disk disk' : Disk), disk.readText input = .ok text →
      disk'.readText input = .ok (Text.withReturns places text) →
      ((Comparison.analysisPlan input).run host disk').result =
        ((Comparison.analysisPlan input).run host disk).result := by
  have hdump : Dump.ofText (Text.withReturns places text) = Dump.ofText text := by
    rw [Dump.ofText, Text.lines_withReturns h, Dump.ofText]
  have htext : ofText (Text.withReturns places text) = ofText text := by
    rw [ofText, hdump, ofText]
  refine ⟨hdump, htext, fun host input disk disk' hread hread' => ?_⟩
  rw [Comparison.run_analysisPlan, Comparison.run_analysisPlan, Host.perform_readText,
    Host.perform_readText, hread, hread']
  cases host.refusals.read with
  | true => rfl
  | false => simp [Comparison.analyse, htext]

open Session.Example in
/-- Both kinds of line ending in one text, with an empty line and a last line that has no ending: it
is analysed as if all endings were alike, also when it is read from a file. -/
theorem ofText_withReturns_mixed :
    let text := "log\n\nOriginal AST:\nA\nOptimized AST:\nB"
    let mixed := "log\n\r\nOriginal AST:\r\nA\r\nOptimized AST:\nB"
    '\r' ∉ text.toList ∧ Text.withReturns (fun i => 4 ≤ i && i ≤ 20) text = mixed ∧
      Dump.ofText mixed = .ok ⟨["A"], ["B"]⟩ ∧ ofText mixed = .ok analysis ∧
      ((Comparison.analysisPlan "dump").run drawing.host
        (disk [("dump", 0, .ofText mixed)])).result = .ok analysis := by
  intro text mixed
  have hplain : '\r' ∉ text.toList := by decide
  have hmixed : Text.withReturns (fun i => 4 ≤ i && i ≤ 20) text = mixed := by decide
  have hsplit : Dump.ofText text = .ok ⟨["A"], ["B"]⟩ := by decide
  have hsame : Dump.ofText text = Dump.ofText dump := by decide
  have hanalysis : ofText text = .ok analysis := by
    rw [ofText, hsame]
    exact ofText_dump
  obtain ⟨hdump, htext, hfile⟩ := ofText_withReturns text (fun i => 4 ≤ i && i ≤ 20) hplain
  rw [hmixed] at hdump htext hfile
  have hread : (disk [("dump", 0, .ofText text)]).readText "dump" = .ok text :=
    Disk.readText_of_read rfl
  have hread' : (disk [("dump", 0, .ofText mixed)]).readText "dump" = .ok mixed :=
    Disk.readText_of_read rfl
  refine ⟨hplain, hmixed, hdump.trans hsplit, htext.trans hanalysis, ?_⟩
  have hreply : (drawing.host.perform [] (.readText "dump") (disk [("dump", 0, .ofText text)])).1 =
      Except.ok text := hread
  rw [hfile drawing.host "dump" _ _ hread hread']
  exact (Comparison.result_analysisPlan_of_read hreply).trans hanalysis

end Analysis

end AstCompare
