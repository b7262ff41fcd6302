import AstCompare.Layout.Program
import AstCompare.Proofs.ComparisonRun
import AstCompare.Proofs.DumpRoundTrip

/-!
# Where the composed pictures come from

Comparisons are made one after the other on one disk, and a layout backend is not to be trusted:
asked for a picture, it may fail, it may draw, or it may report success and do nothing. A comparison
removes the comparison picture of an earlier run before it starts to draw, but not the pictures of
the two sections. So a backend that does nothing goes unnoticed where an earlier run has left a
picture.

What a successful comparison composes is settled here for every row of comparisons. The two pictures
are those that the backend drew in the same run exactly if it drew both times and the second drawing
did not replace the first one, which it does where both paths lead to one file. All other pictures
that are composed stood on the disk before the run.

## Main results

* `Layout.Deed`: what a backend does when it is asked for a picture.
* `Session.Turn`: a comparison in a row of comparisons.
* `Session.composed_of_own_renders_iff`: what a successful comparison composes.
-/

namespace AstCompare

/-! ## What a backend does -/

namespace Layout

/-- What a backend does when it is asked for a picture. -/
inductive Deed where
  /-- It fails, and may leave the disk in any state. -/
  | fails (f : Failure) (left : Disk)
  /-- It puts a picture where it was asked to. -/
  | draws (q : Picture)
  /-- It reports success, and that is all. -/
  | nothing

namespace Deed

variable {x : Asked} {deed : Deed} {d : Disk}

/-- The picture that is drawn. -/
def drawn : Deed → Option Picture
  | draws q => some q
  | fails _ _ | nothing => none

/-- The answer of a backend that does this, and the disk afterwards. A picture that cannot be saved
is a failure. -/
def carryOut (x : Asked) : Deed → Except Failure Unit × Disk
  | fails f left => (.error f, left)
  | draws q =>
    match x.disk.save x.request.output q with
    | (d, none) => (.ok (), d)
    | (d, some e) => (.error (.layout e none), d)
  | nothing => (.ok (), x.disk)

theorem write_of_carryOut {u : Unit} {q : Picture} (h : (draws q).carryOut x = (.ok u, d)) :
    x.disk.write x.request.output (.picture q) = .ok d := by
  rw [carryOut] at h
  split at h
  · rename_i d' hsave
    cases h
    exact Disk.save_eq_none hsave
  · cases h

theorem cases_of_carryOut {u : Unit} (h : deed.carryOut x = (.ok u, d)) :
    (∃ q, deed = draws q ∧ x.disk.write x.request.output (.picture q) = .ok d) ∨
      (deed = nothing ∧ d = x.disk) := by
  cases deed with
  | fails f left => cases h
  | draws q => exact .inl ⟨q, rfl, write_of_carryOut h⟩
  | nothing =>
    cases h
    exact .inr ⟨rfl, rfl⟩

theorem sameButFiles_of_carryOut {u : Unit} (h : deed.carryOut x = (.ok u, d)) :
    x.disk.SameButFiles d := by
  obtain ⟨q, -, hw⟩ | ⟨-, rfl⟩ := cases_of_carryOut h
  · exact .of_write hw
  · exact .refl _

theorem shows_of_carryOut {u : Unit} {q : Picture} (h : deed.carryOut x = (.ok u, d))
    (hq : d.Shows q) : x.disk.Shows q ∨ deed.drawn = some q := by
  obtain ⟨q', rfl, hw⟩ | ⟨-, rfl⟩ := cases_of_carryOut h
  · exact hq.of_write hw
  · exact .inl hq

end Deed

end Layout

/-! ## What keeping a graph text does -/

namespace Comparison

variable {d d' : Disk} {j : Job} {a : Analysis} {s : Section} {q : Picture}

theorem Kept.sameButFiles (hk : Kept j a s d d') : d.SameButFiles d' := by
  obtain ⟨-, rfl⟩ | ⟨-, hw⟩ := hk
  · exact .refl _
  · exact .of_write hw

/-- Keeping a graph text brings no picture onto the disk. -/
theorem Kept.shows (hk : Kept j a s d d') (hq : d'.Shows q) : d.Shows q := by
  obtain ⟨-, rfl⟩ | ⟨-, hw⟩ := hk
  · exact hq
  · obtain hold | hnew := hq.of_write hw
    · exact hold
    · rw [Content.picture?_ofText] at hnew
      cases hnew

/-- Once a graph text has been kept, a path leads to what it led to before, or to that text. -/
theorem Kept.holds {p : String} {c : Content} (hk : Kept j a s d d') (hc : d.Holds p c) :
    d'.Holds p c ∨ d'.Holds p (.ofText (a.graph j.palette s).text) := by
  obtain ⟨-, rfl⟩ | ⟨-, hw⟩ := hk
  · exact .inl hc
  · by_cases hsame : d.SameFile p (j.dotPath s)
    · exact .inr (Disk.holds_of_write_sameFile hsame hw)
    · exact .inl (Disk.holds_of_write_of_not_sameFile hc hsame hw)

end Comparison

/-! ## Rows of comparisons -/

namespace Session

/-- A comparison in a row of comparisons: what is compared, which steps the file system refuses, and
what the backend does. -/
structure Turn where
  job : Comparison.Job
  refusals : Refusals := {}
  backend : Layout.Backend
  conduct : Layout.Asked → Layout.Deed
  does : ∀ x, backend.render x.earlier x.request x.disk = (conduct x).carryOut x

namespace Turn

/-- What answers the calls of a turn. -/
def host (t : Turn) : Host :=
  ⟨t.refusals, t.backend⟩

/-- The comparison of a turn, made on a disk. -/
def ran (t : Turn) (d : Disk) : Ran (Except Failure Comparison.Report) :=
  (Comparison.plan t.job).run t.host d

/-- What the backend is asked in a turn. -/
def asked (t : Turn) (d : Disk) : List Layout.Asked :=
  (Comparison.plan t.job).asked t.host [] d

end Turn

/-- The disk after a row of comparisons. -/
def after : List Turn → Disk → Disk
  | [], d => d
  | t :: rest, d => after rest (t.ran d).disk

end Session

/-! ## What is composed -/

namespace Comparison.Course

open Layout

variable {t : Session.Turn} {d : Disk} (c : Course t.host t.job d)

/-- The first request of a turn, as the backend got it. -/
def asked₁ : Asked :=
  ⟨[], t.job.request c.analysis .before, c.ready₁⟩

/-- The second request of a turn, as the backend got it. -/
def asked₂ : Asked :=
  ⟨[t.job.request c.analysis .before], t.job.request c.analysis .after, c.ready₂⟩

theorem carryOut₁ : (t.conduct c.asked₁).carryOut c.asked₁ = (.ok (), c.drawn₁) :=
  (t.does c.asked₁).symm.trans c.draw₁

theorem carryOut₂ : (t.conduct c.asked₂).carryOut c.asked₂ = (.ok (), c.drawn₂) :=
  (t.does c.asked₂).symm.trans c.draw₂

theorem sameButFiles_drawn₁ : c.drawn₁.SameButFiles c.drawn₂ :=
  c.keep₂.sameButFiles.trans (Deed.sameButFiles_of_carryOut c.carryOut₂)

theorem sameButFiles_cleared : c.cleared.SameButFiles c.drawn₂ :=
  (c.keep₁.sameButFiles.trans (Deed.sameButFiles_of_carryOut c.carryOut₁)).trans
    c.sameButFiles_drawn₁

theorem write₁ {q : Picture} (hq : t.conduct c.asked₁ = .draws q) :
    c.ready₁.write t.job.artifacts.before (.picture q) = .ok c.drawn₁ := by
  have hdone := c.carryOut₁
  rw [hq] at hdone
  exact Deed.write_of_carryOut (x := c.asked₁) hdone

theorem write₂ {q : Picture} (hq : t.conduct c.asked₂ = .draws q) :
    c.ready₂.write t.job.artifacts.after (.picture q) = .ok c.drawn₂ := by
  have hdone := c.carryOut₂
  rw [hq] at hdone
  exact Deed.write_of_carryOut (x := c.asked₂) hdone

/-- What is loaded is what the path leads to. -/
theorem left_eq_of_holds {x : Content} (hx : c.drawn₂.Holds t.job.artifacts.before x) :
    x.picture? = some c.left := by
  obtain ⟨y, hy, hpic⟩ := Disk.load_eq_ok c.loadLeft
  rwa [hx.unique hy]

/-- The second drawing is composed. -/
theorem right_eq {q : Picture} (hq : t.conduct c.asked₂ = .draws q) : c.right = q := by
  obtain ⟨x, hx, hpic⟩ := Disk.load_eq_ok c.loadRight
  rw [hx.unique (Disk.holds_of_write (c.write₂ hq) (.refl _) hx)] at hpic
  cases hpic
  rfl

/-- The first drawing is composed, unless the second one replaces it. -/
theorem left_eq {q₁ q₂ : Picture} (hq₁ : t.conduct c.asked₁ = .draws q₁)
    (hq₂ : t.conduct c.asked₂ = .draws q₂)
    (hfile : ¬ c.ready₂.SameFile t.job.artifacts.before t.job.artifacts.after) : c.left = q₁ := by
  obtain ⟨x, hx, -⟩ := Disk.load_eq_ok c.loadLeft
  have hdrawn : c.drawn₁.Holds t.job.artifacts.before (.picture q₁) :=
    Disk.holds_of_write (c.write₁ hq₁) c.sameButFiles_drawn₁ hx
  obtain hready | hready := c.keep₂.holds hdrawn
  · have hpic :=
      c.left_eq_of_holds (Disk.holds_of_write_of_not_sameFile hready hfile (c.write₂ hq₂))
    cases hpic
    rfl
  · -- a graph text in its place could not have been loaded
    have hpic :=
      c.left_eq_of_holds (Disk.holds_of_write_of_not_sameFile hready hfile (c.write₂ hq₂))
    rw [Content.picture?_ofText] at hpic
    cases hpic

theorem left_eq_of_sameFile {q : Picture} (hq : t.conduct c.asked₂ = .draws q)
    (hfile : c.ready₂.SameFile t.job.artifacts.before t.job.artifacts.after) : c.left = q := by
  have hpic := c.left_eq_of_holds (Disk.holds_of_write_sameFile hfile (c.write₂ hq))
  cases hpic
  rfl

/-- A picture that stands on the disk when both sections are drawn was drawn in this turn, or it
stood there before. -/
theorem shows_of_drawn₂ {q : Picture} (hq : c.drawn₂.Shows q) :
    (t.conduct c.asked₁).drawn = some q ∨ (t.conduct c.asked₂).drawn = some q ∨ d.Shows q := by
  obtain hready₂ | hdrew := Deed.shows_of_carryOut c.carryOut₂ hq
  · obtain hready₁ | hdrew := Deed.shows_of_carryOut c.carryOut₁ (c.keep₂.shows hready₂)
    · refine .inr (.inr ?_)
      have hmade : c.made.Shows q := by
        obtain ⟨-, hsame⟩ | ⟨-, hremove⟩ := c.clear
        · exact hsame ▸ c.keep₁.shows hready₁
        · exact (c.keep₁.shows hready₁).of_remove hremove
      refine Disk.Shows.of_createDirAll (p := t.job.outputDir) ?_
      rwa [c.make]
    · exact .inl hdrew
  · exact .inr (.inl hdrew)

/-- The comparison picture is where it belongs: nothing was there when the drawing began. -/
theorem holds_comparison :
    c.final.Holds t.job.artifacts.comparison (.picture (c.left.beside c.right)) := by
  have hfree : c.cleared.hasEntry t.job.artifacts.comparison = false := by
    obtain ⟨hfree, hsame⟩ | ⟨-, hremove⟩ := c.clear
    · exact hsame ▸ hfree
    · exact Disk.hasEntry_of_remove t.job.endsInSlash_comparison hremove
  exact Disk.holds_of_write_of_free hfree c.sameButFiles_cleared (Disk.save_eq_none c.save)

theorem shows_left : c.drawn₂.Shows c.left := by
  obtain ⟨x, hx, hpic⟩ := Disk.load_eq_ok c.loadLeft
  exact hx.shows hpic

theorem shows_right : c.drawn₂.Shows c.right := by
  obtain ⟨x, hx, hpic⟩ := Disk.load_eq_ok c.loadRight
  exact hx.shows hpic

/-- Both pictures are drawings of this turn exactly if the backend drew both and the second drawing
did not replace a different first one. -/
theorem own_iff :
    (t.conduct c.asked₁).drawn = some c.left ∧ (t.conduct c.asked₂).drawn = some c.right ↔
      t.conduct c.asked₁ ≠ .nothing ∧ t.conduct c.asked₂ ≠ .nothing ∧
        (c.ready₂.SameFile t.job.artifacts.before t.job.artifacts.after →
          (t.conduct c.asked₁).drawn = (t.conduct c.asked₂).drawn) := by
  obtain ⟨q₁, hq₁, -⟩ | ⟨hn₁, -⟩ := Deed.cases_of_carryOut c.carryOut₁
  · obtain ⟨q₂, hq₂, -⟩ | ⟨hn₂, -⟩ := Deed.cases_of_carryOut c.carryOut₂
    · have hright := c.right_eq hq₂
      by_cases hfile : c.ready₂.SameFile t.job.artifacts.before t.job.artifacts.after
      · have hleft := c.left_eq_of_sameFile hq₂ hfile
        simp [hq₁, hq₂, Deed.drawn, hleft, hright, hfile]
      · have hleft := c.left_eq hq₁ hq₂ hfile
        simp [hq₁, hq₂, Deed.drawn, hleft, hright, hfile]
    · simp [hn₂, Deed.drawn]
  · simp [hn₁, Deed.drawn]

end Comparison.Course

namespace Session

/-- **What a successful comparison composes.** After any row of comparisons, if the next one
succeeds, the backend was asked twice, for the graphs of the dump, and the comparison picture shows
two pictures side by side. Both were drawn in this very run exactly if the backend did not fall
silent and its second drawing did not replace the first one. Whatever else is composed stood on the
disk before the run. -/
theorem composed_of_own_renders_iff (earlier : List Turn) (t : Turn) (d : Disk)
    {report : Comparison.Report} (hok : (t.ran (after earlier d)).result = .ok report) :
    ∃ (text : String) (a : Analysis) (d₁ d₂ : Disk) (left right : Picture),
      (after earlier d).readText t.job.input = .ok text ∧ Analysis.ofText text = .ok a ∧
      let x₁ : Layout.Asked := ⟨[], t.job.request a .before, d₁⟩
      let x₂ : Layout.Asked := ⟨[t.job.request a .before], t.job.request a .after, d₂⟩
      t.asked (after earlier d) = [x₁, x₂] ∧
      (t.ran (after earlier d)).disk.Holds t.job.artifacts.comparison
        (.picture (left.beside right)) ∧
      ((t.conduct x₁).drawn = some left ∧ (t.conduct x₂).drawn = some right ↔
        t.conduct x₁ ≠ .nothing ∧ t.conduct x₂ ≠ .nothing ∧
          (d₂.SameFile t.job.artifacts.before t.job.artifacts.after →
            (t.conduct x₁).drawn = (t.conduct x₂).drawn)) ∧
      ∀ q, q = left ∨ q = right →
        (t.conduct x₁).drawn = some q ∨ (t.conduct x₂).drawn = some q ∨
          (after earlier d).Shows q := by
  obtain ⟨c, hfinal, hasked⟩ := Comparison.exists_course hok
  refine ⟨c.text, c.analysis, c.ready₁, c.ready₂, c.left, c.right, c.read, c.analyse, hasked, ?_,
    c.own_iff, ?_⟩
  · rw [Turn.ran, hfinal]
    exact c.holds_comparison
  · rintro q (rfl | rfl)
    · exact c.shows_of_drawn₂ c.shows_left
    · exact c.shows_of_drawn₂ c.shows_right

/-! ## An idle layout program

A program that ends with success and writes nothing is found out only where no file stands yet. -/

/-- What the backend made of an idle program does. -/
def idleConduct (program : String) (x : Layout.Asked) : Layout.Deed :=
  if x.disk.isFile x.request.output then .nothing
  else .fails (.layout (program ++ " produced no image at " ++ x.request.output) (some 0)) x.disk

theorem drawn_idleConduct (program : String) (x : Layout.Asked) :
    (idleConduct program x).drawn = none := by
  unfold idleConduct
  split <;> rfl

theorem render_idle (program : String) (x : Layout.Asked) :
    (Layout.ofProgram (fun _ d => (.ok ⟨some 0, .empty, .empty⟩, d)) program).render
      x.earlier x.request x.disk = (idleConduct program x).carryOut x := by
  have hjudge : (Layout.ofProgram (fun _ d => (.ok ⟨some 0, .empty, .empty⟩, d)) program).render
      x.earlier x.request x.disk =
      (if !x.disk.isFile x.request.output then
        .error (.layout (program ++ " produced no image at " ++ x.request.output) (some 0))
      else .ok (), x.disk) := rfl
  rw [hjudge, idleConduct]
  cases x.disk.isFile x.request.output <;> rfl

namespace Example

/-- A dump with two trees of one node each. -/
def dump : String :=
  "Original AST:\nA\nOptimized AST:\nB\n"

/-- Its trees. -/
def analysis : Analysis :=
  ⟨.node ⟨0, "A"⟩ [], .node ⟨1, "B"⟩ []⟩

/-- What is compared, in the working directory and with fixed names. -/
def job : Comparison.Job :=
  { input := "dump", outputDir := "", naming := .fixed }

/-- A picture of one pixel. -/
def pixel : Picture :=
  .ofBytes .rgb8 1 1 .empty

/-- A working directory with these files, the latest first. -/
def disk (files : List (String × Nat × Content)) (nameless : List NamelessFile := []) : Disk where
  entries := files.map (fun (name, id, c) => (["work", name], .file id c { mode := 0o644 })) ++
    [(["work"], .directory {})]
  cwd := ["work"]
  nextId := files.length + nameless.length
  nameless := nameless

/-- The dump alone. -/
def start : List (String × Nat × Content) :=
  [("dump", 0, .ofText dump)]

/-- The dump and the pictures of its sections. -/
def drawn : List (String × Nat × Content) :=
  [("optimized_ast_highlighted.png", 2, .picture pixel), ("original_ast.png", 1, .picture pixel)] ++
    start

/-- The comparison with a backend that draws. -/
def drawing : Turn where
  job := job
  backend := ⟨fun e r d => (Layout.Deed.draws pixel).carryOut ⟨e, r, d⟩, fun d => (.ok "", d)⟩
  conduct _ := .draws pixel
  does _ := rfl

/-- The comparison with an idle layout program. -/
def idle : Turn where
  job := job
  backend := Layout.ofProgram (fun _ d => (.ok ⟨some 0, .empty, .empty⟩, d)) "dot"
  conduct := idleConduct "dot"
  does := render_idle "dot"

theorem ofText_dump : Analysis.ofText dump = .ok analysis := by
  have hleaf : ∀ id label, Text.outline [label] = [(0, label)] →
      (⟨id⟩ : Reader).read [label] = (.ok (.node ⟨id, label⟩ []), ⟨id + 1⟩) := by
    intro id label h
    rw [Reader.read_of_deeper _ h (by simp)]
    simp [Reading.number, Rose.ofDepths_nil]
  have hsplit : Dump.ofText dump = .ok ⟨["A"], ["B"]⟩ := by decide
  have hbefore := hleaf 0 "A" (by decide)
  rw [Analysis.ofText, hsplit]
  refine Analysis.ofDump_of_read (congrArg Prod.fst hbefore) ?_
  change (((⟨0⟩ : Reader).read ["A"]).2.read ["B"]).1 = _
  rw [hbefore, hleaf 1 "B" (by decide)]

/-- The course of the comparison that draws. -/
def drawingCourse : Comparison.Course drawing.host job (disk start) where
  text := dump
  analysis := analysis
  made := disk start
  cleared := disk start
  ready₁ := disk start
  drawn₁ := disk (("original_ast.png", 1, .picture pixel) :: start)
  ready₂ := disk (("original_ast.png", 1, .picture pixel) :: start)
  drawn₂ := disk drawn
  left := pixel
  right := pixel
  final := disk (("ast_comparison.png", 3, .picture (pixel.beside pixel)) :: drawn)
  read := Disk.readText_of_read rfl
  analyse := ofText_dump
  make := rfl
  clear := .inl ⟨rfl, rfl⟩
  keep₁ := .inl ⟨rfl, rfl⟩
  draw₁ := rfl
  keep₂ := .inl ⟨rfl, rfl⟩
  draw₂ := rfl
  loadLeft := rfl
  loadRight := rfl
  save := rfl

/-- The disk with the comparison picture removed again. -/
def cleared : Disk :=
  disk drawn [⟨3, .picture (pixel.beside pixel), { mode := 0o644 }⟩]

/-- The course of the comparison with the idle program, after the one that drew. -/
def idleCourse : Comparison.Course idle.host job drawingCourse.final where
  text := dump
  analysis := analysis
  made := drawingCourse.final
  cleared := cleared
  ready₁ := cleared
  drawn₁ := cleared
  ready₂ := cleared
  drawn₂ := cleared
  left := pixel
  right := pixel
  final := (cleared.save job.artifacts.comparison (pixel.beside pixel)).1
  read := Disk.readText_of_read rfl
  analyse := ofText_dump
  make := rfl
  clear := .inr ⟨rfl, rfl⟩
  keep₁ := .inl ⟨rfl, rfl⟩
  draw₁ := rfl
  keep₂ := .inl ⟨rfl, rfl⟩
  draw₂ := rfl
  loadLeft := rfl
  loadRight := rfl
  save := rfl

theorem after_drawing : after [drawing] (disk start) = drawingCourse.final :=
  (drawingCourse.run_eq rfl).2

theorem ran_idle : (idle.ran (after [drawing] (disk start))).result =
    .ok (.ofAnalysis job analysis) := by
  rw [after_drawing]
  exact (idleCourse.run_eq rfl).1

end Example

open Example in
/-- After a comparison that drew, one with an idle program succeeds, and composes what the first one
left. -/
theorem composed_of_own_renders_iff_idle :
    (idle.ran (after [drawing] (disk start))).result = .ok (.ofAnalysis job analysis) ∧
      (∀ x, (idle.conduct x).drawn = none) ∧
      ∃ left right : Picture,
        (idle.ran (after [drawing] (disk start))).disk.Holds job.artifacts.comparison
          (.picture (left.beside right)) ∧
        (after [drawing] (disk start)).Shows left ∧ (after [drawing] (disk start)).Shows right := by
  have hnone : ∀ x, (idle.conduct x).drawn = none := drawn_idleConduct "dot"
  obtain ⟨text, a, d₁, d₂, left, right, -, -, -, hholds, -, hfrom⟩ :=
    composed_of_own_renders_iff [drawing] idle (disk start) ran_idle
  have hstale : ∀ q, q = left ∨ q = right → (after [drawing] (disk start)).Shows q := by
    intro q hq
    obtain hdrew | hdrew | hshows := hfrom q hq
    · rw [hnone] at hdrew
      cases hdrew
    · rw [hnone] at hdrew
      cases hdrew
    · exact hshows
  exact ⟨ran_idle, hnone, left, right, hholds, hstale left (.inl rfl), hstale right (.inr rfl)⟩

end Session

end AstCompare
