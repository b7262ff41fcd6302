import AstCompare.Proofs.SeparateRuns

/-!
# Comparisons at the same time

Comparisons with different names for their files do not disturb each other: in whatever order the
calls of two of them are made, both end as they do alone.

Different names are not enough for this. The files must be different as well, which links can
prevent. The dumps must not be among them, by whatever path. Making the output directory must not
open a way to a dump or to a file. And what the operating system says about a dump or a directory
that cannot be reached may depend on how far the other comparison has come.

## Main definitions

* `Plan.Interleaved`: two plans take turns on one disk.
* `Comparison.Tracks`: how far a comparison has come, next to its run alone.
* `Comparison.Change`: what one call of a comparison can do to the disk.

## Main results

* `Comparison.interleaved_endsAs`: comparisons at the same time end as they do alone.
* `Comparison.not_endsJustAs_of_namedApart`: what can go wrong otherwise.
-/

namespace AstCompare

/-! ## Plans that take turns -/

namespace Plan

variable {α β : Type} {h k : Host}

/-- Two plans make their calls on one disk, in any order, until both have ended. Each has a host of
its own and knows of its own calls only. -/
inductive Interleaved (h k : Host) :
    Plan α → List Call → Plan β → List Call → Disk → α → β → Disk → Prop where
  | done {a : α} {b : β} {past past' : List Call} {d : Disk} :
      Interleaved h k (.done a) past (.done b) past' d a b d
  | left {c : Call} {next : c.Reply → Plan α} {past past' : List Call} {q : Plan β} {d final : Disk}
      {a : α} {b : β}
      (on : Interleaved h k (next (h.perform past c d).1) (past ++ [c]) q past'
        (h.perform past c d).2 a b final) :
      Interleaved h k (.call c next) past q past' d a b final
  | right {c : Call} {next : c.Reply → Plan β} {past past' : List Call} {p : Plan α}
      {d final : Disk} {a : α} {b : β}
      (on : Interleaved h k p past (next (k.perform past' c d).1) (past' ++ [c])
        (k.perform past' c d).2 a b final) :
      Interleaved h k p past (.call c next) past' d a b final

/-- One plan may wait for the other one. -/
theorem interleaved_runFrom (p : Plan α) (q : Plan β) (past past' : List Call) (d : Disk) :
    Interleaved h k p past q past' d (p.runFrom h past d).result
      (q.runFrom k past' (p.runFrom h past d).disk).result
      (q.runFrom k past' (p.runFrom h past d).disk).disk := by
  induction p generalizing past d with
  | done a =>
    induction q generalizing past' d with
    | done b => exact .done
    | call c next ih => exact .right (ih _ _ _)
  | call c next ih => exact .left (ih _ _ _)

end Plan

/-- The failure, without the words of the operating system if something could not be reached. -/
def Failure.reasonless : Failure → Failure
  | unreadableInput path _ => unreadableInput path ""
  | uncreatableOutput path _ => uncreatableOutput path ""
  | f => f

namespace Comparison

/-! ## How far a comparison has come -/

section

variable {start : Disk} {dir : String} {j k : Job} {d d' : Disk} {p : String} {h : Host}
  {alone : Ran (Except Failure Report)} {plan' : Plan (Except Failure Report)} {past : List Call}

/-- A comparison that has touched nothing yet may find the disk as it was, or settled by the other
comparison. -/
def Early (start : Disk) (dir : String) (j k : Job) (d : Disk) : Prop :=
  d = start ∨ (Settled start dir j k d ∧
    (start.withDir dir).Alike (j.seen (start.withDir dir)) d)

/-- How far a comparison has come, next to its run alone: it is about to read its dump, or to make
its output directory, it has ended without touching anything more, or it works on its own files. -/
inductive Tracks (start : Disk) (dir : String) (h : Host) (j k : Job)
    (alone : Ran (Except Failure Report)) :
    Plan (Except Failure Report) → List Call → Disk → Prop where
  | reading {p : Plan (Except Failure Report)} {d : Disk} (begun : p = plan j)
      (run : p.runFrom h [] start = alone) (early : Early start dir j k d) :
      Tracks start dir h j k alone p [] d
  | making {p : Plan (Except Failure Report)} {past : List Call} {d : Disk} {a : Analysis}
      (begun : p = drawingPlan j a) (run : p.runFrom h past start = alone)
      (early : Early start dir j k d) : Tracks start dir h j k alone p past d
  | stopped {r : Except Failure Report} {past : List Call} {d : Disk}
      (result : r.mapError Failure.reasonless = alone.result.mapError Failure.reasonless)
      (disk : alone.disk = start ∨ alone.disk = start.withDir dir) (early : Early start dir j k d) :
      Tracks start dir h j k alone (.done r) past d
  | working {p : Plan (Except Failure Report)} {past : List Call} {e d : Disk}
      (made : (start.createDirAll dir).2 = none) (only : p.Only j.outputs)
      (settled : Settled start dir j k e) (settled' : Settled start dir j k d)
      (alike : e.Alike (j.seen (start.withDir dir)) d) (run : p.runFrom h past e = alone) :
      Tracks start dir h j k alone p past d

/-- All that a call of a comparison can do to the disk: nothing, or it makes the output directory,
or it does something to a file of its own. -/
inductive Change (start : Disk) (dir : String) (j k : Job) : Disk → Disk → Prop where
  | nothing (d : Disk) : Change start dir j k d d
  | made : Change start dir j k start (start.withDir dir)
  | file {x : Effect} {d : Disk} (made : (start.createDirAll dir).2 = none)
      (settled : Settled start dir j k d) (fits : x.Fits d)
      (own : ∀ l, x.place? = some l → l ∈ j.written (start.withDir dir)) :
      Change start dir j k d (x.apply d)

/-- The comparison has ended as it does alone: with the same result, up to the words of the
operating system, and with the same at the paths of its files. -/
structure EndsAs (j : Job) (alone : Ran (Except Failure Report)) (r : Except Failure Report)
    (final : Disk) : Prop where
  result : r.mapError Failure.reasonless = alone.result.mapError Failure.reasonless
  found : ∀ p ∈ j.outputs, final.found p = alone.disk.found p

theorem Early.found_eq (hsep : Separate start dir j k) (h : Early start dir j k d)
    (hp : p ∈ j.input :: j.outputs) : d.found p = start.found p := by
  obtain rfl | ⟨hsettled, halike⟩ := h
  · rfl
  · have hground : (start.withDir dir).found p = start.found p := hsep.found p (by
      simp only [List.mem_cons, List.mem_append] at hp ⊢
      tauto)
    rw [(Settled.withDir hsep).found_eq hsettled halike hp, hground]

/-- The other comparison does not bring a comparison out of its beginnings. -/
theorem Early.change (hsep : Separate start dir j k) (h : Early start dir j k d)
    (hc : Change start dir k j d d') : Early start dir j k d' := by
  cases hc with
  | nothing => exact h
  | made => exact .inr ⟨.withDir hsep, .refl _ _⟩
  | @file x _ hmade hsettled hfits hown =>
    -- if nothing has happened yet, the output directory was there from the beginning
    have halike : (start.withDir dir).Alike (j.seen (start.withDir dir)) d := by
      obtain rfl | ⟨-, halike⟩ := h
      · rw [hsettled.withDir_eq hmade]
        exact .refl _ _
      · exact halike
    exact .inr ⟨(hsettled.apply hmade hfits hown).symm,
      halike.trans (.of_apart hsettled.apart' hown hfits)⟩

namespace Tracks

/-- **A call of the other comparison** leaves a comparison where it is. -/
theorem change (hsep : Separate start dir j k) (ht : Tracks start dir h j k alone plan' past d)
    (hc : Change start dir k j d d') : Tracks start dir h j k alone plan' past d' := by
  cases ht with
  | reading hbegun hrun hearly => exact .reading hbegun hrun (hearly.change hsep hc)
  | making hbegun hrun hearly => exact .making hbegun hrun (hearly.change hsep hc)
  | stopped hresult hdisk hearly => exact .stopped hresult hdisk (hearly.change hsep hc)
  | working hmade honly hsettled hsettled' halike hrun =>
    cases hc with
    | nothing => exact .working hmade honly hsettled hsettled' halike hrun
    | made =>
      rw [hsettled'.withDir_eq hmade]
      exact .working hmade honly hsettled hsettled' halike hrun
    | @file x _ _ _ hfits hown =>
      exact .working hmade honly hsettled (hsettled'.symm.apply hmade hfits hown).symm
        (halike.trans (.of_apart hsettled'.apart hown hfits)) hrun

/-- The dump is read, or it cannot be read. -/
theorem step_reading (hsep : Separate start dir j k) (hrun : (plan j).runFrom h [] start = alone)
    (hearly : Early start dir j k d) :
    Tracks start dir h j k alone
      (afterAnalysis j (analyse j.input (h.perform [] (.readText j.input) d).1))
      [.readText j.input] d := by
  have halone :
      (afterAnalysis j (analyse j.input (h.perform [] (.readText j.input) start).1)).runFrom
        h [.readText j.input] start = alone := hrun
  have hfound := Disk.toOption_readText (hearly.found_eq hsep List.mem_cons_self)
  have hreply : Except.toOption (h.perform [] (.readText j.input) d).1 =
      Except.toOption (h.perform [] (.readText j.input) start).1 := by
    rw [Host.perform_readText, Host.perform_readText]
    split
    · rfl
    · exact hfound
  -- the replies may differ in the reason alone
  generalize (h.perform [] (.readText j.input) d).1 = r at hreply ⊢
  generalize (h.perform [] (.readText j.input) start).1 = r₀ at hreply halone
  cases r with
  | error e =>
    cases r₀ with
    | ok text => cases hreply
    | error e₀ =>
      cases halone
      exact .stopped rfl (.inl rfl) hearly
  | ok text =>
    cases r₀ with
    | error e₀ => cases hreply
    | ok text₀ =>
      cases hreply
      cases ha : analyse j.input (.ok text) with
      | error e =>
        rw [ha] at halone
        cases halone
        exact .stopped rfl (.inl rfl) hearly
      | ok a =>
        rw [ha] at halone
        exact .making rfl halone hearly

/-- The output directory is made, or it cannot be made. -/
theorem step_making {a : Analysis} (hsep : Separate start dir j k)
    (hrun : (drawingPlan j a).runFrom h past start = alone) (hearly : Early start dir j k d) :
    Tracks start dir h j k alone
        (orFail (fun e => .uncreatableOutput j.outputDir (DiskError.message e))
          (h.perform past (.createDirAll j.outputDir) d).1 fun _ => picturesPlan j a)
        (past ++ [.createDirAll j.outputDir]) (h.perform past (.createDirAll j.outputDir) d).2 ∧
      Change start dir j k d (h.perform past (.createDirAll j.outputDir) d).2 := by
  have halone : (orFail (fun e => .uncreatableOutput j.outputDir (DiskError.message e))
      (h.perform past (.createDirAll j.outputDir) start).1 fun _ => picturesPlan j a).runFrom h
        (past ++ [.createDirAll j.outputDir]) (h.perform past (.createDirAll j.outputDir) start).2 =
          alone := hrun
  rw [hsep.outputDir.1] at halone ⊢
  have hsettled := Settled.withDir hsep
  cases hrefused : h.refusals.createDir with
  | true =>
    have hperform : ∀ d, h.perform past (.createDirAll dir) d = (.error .refused, d) := by
      intro d
      rw [Host.perform_createDirAll, if_pos hrefused]
    rw [hperform] at halone ⊢
    cases halone
    exact ⟨.stopped rfl (.inl rfl) hearly, .nothing d⟩
  | false =>
    have hperform : ∀ d, h.perform past (.createDirAll dir) d = madeReply (d.createDirAll dir) := by
      intro d
      rw [Host.perform_createDirAll, hrefused]
      rfl
    rw [hperform] at halone ⊢
    cases hmade : (start.createDirAll dir).2 with
    | none =>
      have hstart : start.createDirAll dir = (start.withDir dir, none) := Prod.ext rfl hmade
      rw [hstart] at halone
      obtain rfl | ⟨hsettled', halike⟩ := hearly
      · rw [hstart]
        exact ⟨.working hmade (only_picturesPlan j a) hsettled hsettled (.refl _ _) halone, .made⟩
      · rw [Disk.createDirAll_of_isDirectory (hsettled'.isDirectory hmade)]
        exact ⟨.working hmade (only_picturesPlan j a) hsettled hsettled' halike halone, .nothing d⟩
    | some e =>
      have hstart : start.createDirAll dir = (start.withDir dir, some e) := Prod.ext rfl hmade
      rw [hstart] at halone
      cases halone
      obtain rfl | ⟨hsettled', halike⟩ := hearly
      · rw [hstart]
        exact ⟨.stopped rfl (.inr rfl) (.inr ⟨hsettled, .refl _ _⟩), .made⟩
      · -- the second attempt fails as well, but maybe at another level
        obtain ⟨hdisk, hnone⟩ := hsettled'.createDirAll_again
        obtain ⟨e', he'⟩ : ∃ e', (d.createDirAll dir).2 = some e' := by
          rw [hmade] at hnone
          exact Option.ne_none_iff_exists'.mp fun heq => nomatch hnone.mp heq
        have hagain : d.createDirAll dir = (d, some e') := Prod.ext hdisk he'
        rw [hagain]
        exact ⟨.stopped rfl (.inr rfl) (.inr ⟨hsettled', halike⟩), .nothing d⟩

/-- Something is done to a file of the comparison. -/
theorem step_working {c : Call} {next : c.Reply → Plan (Except Failure Report)} {e : Disk}
    (hsep : Separate start dir j k) (hb : h.backend.DrawsBlindly)
    (hmade : (start.createDirAll dir).2 = none) (honly : (Plan.call c next).Only j.outputs)
    (hsettled : Settled start dir j k e) (hsettled' : Settled start dir j k d)
    (halike : e.Alike (j.seen (start.withDir dir)) d)
    (hrun : (Plan.call c next).runFrom h past e = alone) :
    Tracks start dir h j k alone (next (h.perform past c d).1) (past ++ [c])
        (h.perform past c d).2 ∧
      Change start dir j k d (h.perform past c d).2 := by
  cases honly with
  | @call _ _ p habout hp hon =>
    have hsame := Settled.sameAt hsep hmade hsettled hsettled' halike hp
    obtain ⟨x, hfits, hfits', hplace, hdisk, hperform⟩ := Host.perform_sameDone hb past habout hsame
    have hown : ∀ l, x.place? = some l → l ∈ j.written (start.withDir dir) := by
      intro l hl
      refine Disk.mem_places.mpr ⟨p, hp, ?_⟩
      exact (Settled.locateWith_eq hsep hmade hsettled hp true).symm.trans (hplace l hl)
    have hseen : ∀ l, x.place? = some l → l ∈ j.seen (start.withDir dir) := by
      intro l hl
      obtain ⟨q, hq, hloc⟩ := Disk.mem_places.mp (hown l hl)
      exact Disk.mem_places.mpr ⟨q, List.mem_cons_of_mem _ hq, hloc⟩
    rw [hperform]
    refine ⟨.working hmade (hon _) (hsettled.apply hmade hfits hown)
      (hsettled'.apply hmade hfits' hown)
      (halike.apply hsettled.numbered hsettled'.numbered hseen hfits) ?_,
      .file hmade hsettled' hfits' hown⟩
    rw [← hdisk]
    exact hrun

/-- **A call of the comparison itself** brings it one step further, as it does alone. -/
theorem step {c : Call} {next : c.Reply → Plan (Except Failure Report)}
    (hsep : Separate start dir j k) (hb : h.backend.DrawsBlindly)
    (ht : Tracks start dir h j k alone (.call c next) past d) :
    Tracks start dir h j k alone (next (h.perform past c d).1) (past ++ [c])
        (h.perform past c d).2 ∧
      Change start dir j k d (h.perform past c d).2 := by
  cases ht with
  | reading hbegun hrun hearly =>
    cases hbegun
    exact ⟨step_reading hsep hrun hearly, .nothing d⟩
  | making hbegun hrun hearly =>
    cases hbegun
    exact step_making hsep hrun hearly
  | working hmade honly hsettled hsettled' halike hrun =>
    exact step_working hsep hb hmade honly hsettled hsettled' halike hrun

/-- A comparison that has ended has ended as it does alone. -/
theorem endsAs {r : Except Failure Report} (hsep : Separate start dir j k)
    (ht : Tracks start dir h j k alone (.done r) past d) : EndsAs j alone r d := by
  cases ht with
  | reading hbegun => cases hbegun
  | making hbegun => cases hbegun
  | stopped hresult hdisk hearly =>
    refine ⟨hresult, fun p hp => ?_⟩
    have halone : alone.disk.found p = start.found p := by
      obtain hdisk | hdisk := hdisk
      · rw [hdisk]
      · rw [hdisk]
        exact Early.found_eq hsep (.inr ⟨.withDir hsep, .refl _ _⟩) (List.mem_cons_of_mem _ hp)
    rw [hearly.found_eq hsep (List.mem_cons_of_mem _ hp), halone]
  | working _ _ hsettled hsettled' halike hrun =>
    cases hrun
    exact ⟨rfl, fun p hp => hsettled.found_eq hsettled' halike (List.mem_cons_of_mem _ hp)⟩

/-- **Comparisons that take turns.** Whatever has been done already, both go on as they do alone. -/
theorem interleaved {h' : Host} {alone' : Ran (Except Failure Report)}
    {q : Plan (Except Failure Report)} {past' : List Call} {r r' : Except Failure Report}
    {final : Disk} (hsep : Separate start dir j k) (hb : h.backend.DrawsBlindly)
    (hb' : h'.backend.DrawsBlindly) (hrun : Plan.Interleaved h h' plan' past q past' d r r' final)
    (hj : Tracks start dir h j k alone plan' past d)
    (hk : Tracks start dir h' k j alone' q past' d) :
    EndsAs j alone r final ∧ EndsAs k alone' r' final := by
  induction hrun with
  | done => exact ⟨hj.endsAs hsep, hk.endsAs hsep.symm⟩
  | left _ ih =>
    obtain ⟨hj', hchange⟩ := hj.step hsep hb
    exact ih hj' (hk.change hsep.symm hchange)
  | right _ ih =>
    obtain ⟨hk', hchange⟩ := hk.step hsep.symm hb'
    exact ih (hj.change hsep hchange) hk'

end Tracks

/-- **Comparisons at the same time.** Let two comparisons that are separate take turns on one disk,
in any order, with backends that draw blindly. Then both end as they do alone. -/
theorem interleaved_endsAs {h' : Host} {r r' : Except Failure Report} {final : Disk}
    (hsep : Separate start dir j k) (hb : h.backend.DrawsBlindly) (hb' : h'.backend.DrawsBlindly)
    (hrun : Plan.Interleaved h h' (plan j) [] (plan k) [] start r r' final) :
    EndsAs j ((plan j).run h start) r final ∧ EndsAs k ((plan k).run h' start) r' final :=
  Tracks.interleaved hsep hb hb' hrun (.reading rfl rfl (.inl rfl)) (.reading rfl rfl (.inl rfl))

end

namespace Example

open Session.Example

/-- The disk with the dump and more entries, and the number for the next file. -/
def also (entries : List (Location × Entry)) (nextId : Nat) : Disk :=
  { disk start with entries := entries ++ (disk start).entries, nextId := nextId }

/-- A file for a picture, with a number and a content. -/
def file (l : Location) (id : Nat) (c : Content) : Location × Entry :=
  (l, .file id c { mode := 0o644 })

/-- The directory that is missing. -/
def out : Location × Entry :=
  (["work", "out"], .directory {})

/-- A comparison with fixed names. -/
def plainJob : Job :=
  { input := "dump", outputDir := "out", naming := .fixed }

/-- A comparison of the same dump, with a run id and with its graph texts kept. -/
def keptJob : Job :=
  { input := "dump", outputDir := "out", naming := .perRun "b", keepDot := true }

/-- The place of a file in the output directory. -/
def inOut (name : String) : Location :=
  ["work", "out", name]

/-- The course of the first comparison alone. -/
def plainCourse : Course drawing.host plainJob (also [] 1) where
  text := dump
  analysis := analysis
  made := also [out] 1
  cleared := also [out] 1
  ready₁ := also [out] 1
  drawn₁ := also [file (inOut "original_ast.png") 1 (.picture pixel), out] 2
  ready₂ := also [file (inOut "original_ast.png") 1 (.picture pixel), out] 2
  drawn₂ := also [file (inOut "optimized_ast_highlighted.png") 2 (.picture pixel),
    file (inOut "original_ast.png") 1 (.picture pixel), out] 3
  left := pixel
  right := pixel
  final := also [file (inOut "ast_comparison.png") 3 (.picture (pixel.beside pixel)),
    file (inOut "optimized_ast_highlighted.png") 2 (.picture pixel),
    file (inOut "original_ast.png") 1 (.picture pixel), out] 4
  read := Disk.readText_of_read rfl
  analyse := ofText_dump
  make := rfl
  clear := .inl ⟨rfl, rfl⟩
  keep₁ := .inl ⟨rfl, rfl⟩
  draw₁ := rfl
  keep₂ := .inl ⟨rfl, rfl⟩
  draw₂ := rfl
  loadLeft := rfl
  loadRight := rfl
  save := rfl

/-- The graph text of a section, as it is kept. -/
def dotFile (s : Section) (name : String) (id : Nat) : Location × Entry :=
  file (inOut name) id (.ofText (analysis.graph {} s).text)

/-- The course of the second comparison alone. -/
def keptCourse : Course drawing.host keptJob (also [] 1) where
  text := dump
  analysis := analysis
  made := also [out] 1
  cleared := also [out] 1
  ready₁ := also [dotFile .before "original_ast-b.dot" 1, out] 2
  drawn₁ := also [file (inOut "original_ast-b.png") 2 (.picture pixel),
    dotFile .before "original_ast-b.dot" 1, out] 3
  ready₂ := also [dotFile .after "optimized_ast_highlighted-b.dot" 3,
    file (inOut "original_ast-b.png") 2 (.picture pixel),
    dotFile .before "original_ast-b.dot" 1, out] 4
  drawn₂ := also [file (inOut "optimized_ast_highlighted-b.png") 4 (.picture pixel),
    dotFile .after "optimized_ast_highlighted-b.dot" 3,
    file (inOut "original_ast-b.png") 2 (.picture pixel),
    dotFile .before "original_ast-b.dot" 1, out] 5
  left := pixel
  right := pixel
  final := also [file (inOut "ast_comparison-b.png") 5 (.picture (pixel.beside pixel)),
    file (inOut "optimized_ast_highlighted-b.png") 4 (.picture pixel),
    dotFile .after "optimized_ast_highlighted-b.dot" 3,
    file (inOut "original_ast-b.png") 2 (.picture pixel),
    dotFile .before "original_ast-b.dot" 1, out] 6
  read := Disk.readText_of_read rfl
  analyse := ofText_dump
  make := rfl
  clear := .inl ⟨rfl, rfl⟩
  keep₁ := .inr ⟨rfl, rfl⟩
  draw₁ := rfl
  keep₂ := .inr ⟨rfl, rfl⟩
  draw₂ := rfl
  loadLeft := rfl
  loadRight := rfl
  save := rfl

theorem drawsBlindly_drawing : drawing.host.backend.DrawsBlindly := by
  refine ⟨⟨fun _ _ => some (.picture pixel), fun _ _ written _ =>
    written.mapError fun e => .layout e.message none⟩, ?_⟩
  funext earlier r d
  have hrender : drawing.host.backend.render earlier r d =
      (Layout.Deed.draws pixel).carryOut ⟨earlier, r, d⟩ := rfl
  have hpixels : pixel.hasPixels = true := rfl
  rw [hrender, Layout.Deed.carryOut, Layout.Drawing.render, Disk.save, hpixels]
  simp only [if_true]
  cases d.write r.output (.picture pixel) with
  | error e => rfl
  | ok d' => rfl

theorem numbered_of_all {d : Disk}
    (h : d.entries.all (fun x => x.2.number?.all (· < d.nextId)) = true) : d.Numbered := by
  intro l n hl
  obtain ⟨c, a, hget⟩ := Disk.numberAt_eq_some hl
  have hmem : (l, Entry.file n c a) ∈ d.entries := by
    unfold Disk.get? at hget
    split at hget
    · cases hget
    · obtain ⟨before, behind, hentries, -⟩ := List.lookup_eq_some_iff.mp hget
      rw [hentries]
      simp
  simpa [Entry.number?] using List.all_eq_true.mp h _ hmem

/-- Nothing meets a gap. -/
theorem not_meet {d : Disk} {p q : String} {l : Location} {e : Entry} (hp : d.stat p = .ok (l, e))
    (hq : d.stat q = .error .notFound) : ¬ d.Meet p q := by
  rintro ⟨l', m, hl, hm, hmeet⟩
  obtain ⟨hl', hget, -⟩ := Disk.statAt_eq_ok_iff.mp hp
  rw [hl] at hl'
  cases hl'
  have hgap : d.get? m = none := by
    cases hget' : d.get? m with
    | none => rfl
    | some e' =>
      rw [Disk.stat, hm] at hq
      simp only [Disk.statAt, hget'] at hq
      split at hq <;> cases hq
  obtain rfl | ⟨hsome, hnumber⟩ := hmeet
  · rw [hget] at hgap
    cases hgap
  · rw [hnumber, Disk.numberAt, hgap] at hsome
    cases hsome

theorem separate : Separate (also [] 1) "out" plainJob keptJob := by
  have hmade : (also [] 1).withDir "out" = also [out] 1 := rfl
  have hgaps : ∀ p ∈ plainJob.outputs ++ keptJob.outputs, (also [out] 1).stat p = .error .notFound ∧
      (also [out] 1).lstat p = .error .notFound ∧ (also [] 1).stat p = .error .notFound := by
    decide
  have hdump : (also [out] 1).stat "dump" =
      .ok (["work", "dump"], .file 0 (.ofText dump) { mode := 0o644 }) := rfl
  have hdump₀ : (also [] 1).stat "dump" =
      .ok (["work", "dump"], .file 0 (.ofText dump) { mode := 0o644 }) := rfl
  have hfound : (also [out] 1).found "dump" = (also [] 1).found "dump" := by
    rw [Disk.found, Disk.found, hdump, hdump₀]
  refine ⟨numbered_of_all (by decide), ⟨rfl, rfl⟩, by decide, by decide, ?_, ?_, ⟨?_, ?_⟩, ?_⟩
  all_goals rw [hmade]
  · rintro p hp ⟨l, t, hlink⟩
    rw [(hgaps p hp).2.1] at hlink
    cases hlink
  · rintro p hp q - ⟨l, -, id, c, -, a, -, hstat, -⟩
    rw [(hgaps p (List.mem_append_left _ hp)).1] at hstat
    cases hstat
  · exact fun q hq => not_meet hdump (hgaps q (List.mem_append_right _ hq)).1
  · exact fun p hp => not_meet hdump (hgaps p (List.mem_append_left _ hp)).1
  · intro p hp
    obtain rfl | hp := List.mem_cons.mp hp
    · exact hfound
    · obtain rfl | hp := List.mem_cons.mp hp
      · exact hfound
      · rw [Disk.found, Disk.found, (hgaps p hp).1, (hgaps p hp).2.2]

theorem eq_ok_of_endsAs {j : Job} {alone : Ran (Except Failure Report)} {r : Except Failure Report}
    {final : Disk} {report : Report} (h : EndsAs j alone r final)
    (halone : alone.result = .ok report) :
    r = .ok report := by
  have hresult := h.result
  rw [halone] at hresult
  cases r with
  | error f => cases hresult
  | ok x =>
    cases hresult
    rfl

end Example

open Session.Example Example in
/-- Two comparisons that read their dump before either of them makes the output directory both
succeed, and leave what they leave alone. -/
theorem interleaved_endsAs_both : Separate (also [] 1) "out" plainJob keptJob ∧ ∃ r r' final,
    Plan.Interleaved drawing.host drawing.host (plan plainJob) [] (plan keptJob) [] (also [] 1)
      r r' final ∧
    r = .ok (.ofAnalysis plainJob analysis) ∧ r' = .ok (.ofAnalysis keptJob analysis) ∧
    (∀ p ∈ plainJob.outputs, final.found p = plainCourse.final.found p) ∧
    ∀ p ∈ keptJob.outputs, final.found p = keptCourse.final.found p := by
  have hrun : ∃ r r' final,
      Plan.Interleaved drawing.host drawing.host (plan plainJob) [] (plan keptJob) [] (also [] 1)
        r r' final :=
    ⟨_, _, _, .left (.right (Plan.interleaved_runFrom _ _ _ _ _))⟩
  obtain ⟨r, r', final, hrun⟩ := hrun
  obtain ⟨hplain, hkept⟩ :=
    interleaved_endsAs separate drawsBlindly_drawing drawsBlindly_drawing hrun
  obtain ⟨hplainResult, hplainDisk⟩ := plainCourse.run_eq rfl
  obtain ⟨hkeptResult, hkeptDisk⟩ := keptCourse.run_eq rfl
  refine ⟨separate, r, r', final, hrun, eq_ok_of_endsAs hplain hplainResult,
    eq_ok_of_endsAs hkept hkeptResult, fun p hp => ?_, fun p hp => ?_⟩
  · rw [hplain.found p hp, hplainDisk]
  · rw [hkept.found p hp, hkeptDisk]

/-! ## Different names are not enough -/

end Comparison

/-- Two different run ids without slashes, or fixed names and a run id. -/
def Naming.Differ : Naming → Naming → Prop
  | perRun a, perRun b => a ≠ b ∧ '/' ∉ a.toList ∧ '/' ∉ b.toList
  | fixed, perRun _ | perRun _, fixed => True
  | fixed, fixed => False

instance (n n' : Naming) : Decidable (n.Differ n') :=
  match n, n' with
  | .perRun _, .perRun _ => inferInstanceAs (Decidable (_ ∧ _ ∧ _))
  | .fixed, .perRun _ | .perRun _, .fixed => isTrue trivial
  | .fixed, .fixed => isFalse id

namespace Comparison

/-- The comparisons have one output directory and different names for their files, and the path of
no dump is the path of a file of the other comparison. -/
def NamedApart (j k : Job) : Prop :=
  j.outputDir = k.outputDir ∧ j.naming.Differ k.naming ∧ j.input ∉ k.outputs ∧ k.input ∉ j.outputs

instance (j k : Job) : Decidable (NamedApart j k) :=
  inferInstanceAs (Decidable (_ ∧ _ ∧ _ ∧ _))

/-- The comparison has ended with the very result of its run alone, and its files have the same
contents. -/
structure EndsJustAs (j : Job) (alone : Ran (Except Failure Report)) (r : Except Failure Report)
    (final : Disk) : Prop where
  result : r = alone.result
  holds : ∀ p ∈ j.outputs, ∀ c, final.Holds p c ↔ alone.disk.Holds p c

namespace Example

open Session.Example

/-- A host whose layout backend writes a dump where a picture should be, and then fails. -/
def scribbling : Host where
  backend := ⟨Layout.Drawing.render ⟨fun _ _ => some (.ofText dump),
    fun _ _ _ _ => .error (.layout "no layout" none)⟩, fun d => (.ok "", d)⟩

/-- A comparison of a dump, with a run id. -/
def into (dir id input : String) : Job :=
  { input := input, outputDir := dir, naming := .perRun id }

/-- A file of the second comparison that is a link to one of the first comparison. -/
def link : Location × Entry :=
  (["work", "original_ast-b.png"], .link (.path "original_ast-a.png"))

/-- Two comparisons, the disk that they begin with, and the disk that the first one leaves. -/
structure Case where
  disk : Disk
  first : Job
  second : Job
  left : Disk

/-- The way to the dump leads through the output directory. -/
def dumpBehindOutput : Case where
  disk := also [] 1
  first := into "out" "a" "dump"
  second := into "out" "b" "out/../dump"
  left := also [file ["work", "out", "original_ast-a.png"] 1 (.ofText dump), out] 2

/-- The way to the files leads through a directory that is made. -/
def filesBehindOutput : Case where
  disk := also [file ["work", "original_ast-b.png"] 1 .empty] 2
  first := into "out/.." "a" "dump"
  second := into "out/.." "b" "missing"
  left := also [file ["work", "original_ast-a.png"] 2 (.ofText dump), out,
    file ["work", "original_ast-b.png"] 1 .empty] 3

/-- The dump is a file of the first comparison, by another path. -/
def dumpWritten : Case where
  disk := also [] 1
  first := into "" "a" "dump"
  second := into "" "b" "./original_ast-a.png"
  left := also [file ["work", "original_ast-a.png"] 1 (.ofText dump)] 2

/-- A file is a link to one of the first comparison. -/
def fileLinked : Case where
  disk := also [link] 1
  first := into "" "a" "dump"
  second := into "" "b" "missing"
  left := also [file ["work", "original_ast-a.png"] 1 (.ofText dump), link] 2

/-- A file is one of the first comparison, under another name. -/
def fileShared : Case where
  disk := also [file ["work", "original_ast-a.png"] 1 .empty,
    file ["work", "original_ast-b.png"] 1 .empty] 2
  first := into "" "a" "dump"
  second := into "" "b" "missing"
  left := also [file ["work", "original_ast-a.png"] 1 (.ofText dump),
    file ["work", "original_ast-b.png"] 1 (.ofText dump)] 2

/-- The dump cannot be read, but for another reason. -/
def dumpBehindFile : Case where
  disk := also [] 1
  first := into "" "a" "dump"
  second := into "" "b" "original_ast-a.png/dump"
  left := also [file ["work", "original_ast-a.png"] 1 (.ofText dump)] 2

/-- The output directory cannot be made, but for another reason. -/
def outputBehindFile : Case where
  disk := also [] 1
  first := into "out/../dump/out" "a" "dump"
  second := into "out/../dump/out" "b" "dump"
  left := also [out] 1

/-- A run id leads out of a directory that happens to be there. -/
def slashInName : Case where
  disk := also [(["work", "original_ast-"], .directory {})] 1
  first := { input := "dump", outputDir := "", naming := .fixed }
  second := into "" "/../original_ast" "missing"
  left := also [file ["work", "original_ast.png"] 1 (.ofText dump),
    (["work", "original_ast-"], .directory {})] 2

/-- What can go wrong when the second comparison begins after the first one has ended. -/
def cases : List Case :=
  [dumpBehindOutput, filesBehindOutput, dumpWritten, fileLinked, fileShared, slashInName,
    dumpBehindFile, outputBehindFile]

/-- With a dump that can be read, a comparison comes as far as its output directory. -/
theorem run_of_read {j : Job} {d : Disk} (hread : d.readText j.input = .ok dump) :
    (plan j).run scribbling d =
      (drawingPlan j analysis).runFrom scribbling [.readText j.input] d :=
  (run_of_analysis (h := scribbling) hread ofText_dump).1

/-- The output directory that cannot be made, level by level. -/
theorem createDirAll_below_dump :
    (also [] 1).createDirAll "out/../dump/out" = (also [out] 1, some .present) := by
  have hout : Disk.createDirAllFrom 1 (also [] 1) "out" = (also [out] 1, none) := rfl
  have hback : Disk.createDirAllFrom 2 (also [] 1) "out/.." = (also [out] 1, none) :=
    Disk.createDirAllFrom_of_parent rfl rfl rfl hout (e := .present) rfl
  have hdump : Disk.createDirAllFrom 3 (also [] 1) "out/../dump" = (also [out] 1, some .present) :=
    Disk.createDirAllFrom_of_parent rfl rfl rfl hback rfl
  exact Disk.createDirAllFrom_of_parent_failed rfl rfl rfl hdump

/-- A comparison that has made its output directory, or has failed to. -/
theorem runFrom_drawingPlan {j : Job} {d d' : Disk} {x : Option DiskError} (past : List Call)
    (hmade : d.createDirAll j.outputDir = (d', x)) :
    (drawingPlan j analysis).runFrom scribbling past d =
      (orFail (fun e => .uncreatableOutput j.outputDir (DiskError.message e)) (madeReply (d', x)).1
        fun _ => picturesPlan j analysis).runFrom scribbling
          (past ++ [.createDirAll j.outputDir]) d' := by
  have hperform : scribbling.perform past (.createDirAll j.outputDir) d =
      ((madeReply (d', x)).1, d') := by
    rw [Host.perform_createDirAll, hmade]
    cases x <;> rfl
  simp only [drawingPlan, Plan.runFrom, hperform]

theorem run_below_dump (id : String) {d d' : Disk} {e : DiskError}
    (hmade : d.createDirAll "out/../dump/out" = (d', some e))
    (hread : d.read "dump" = .ok (.ofText dump)) :
    ((plan (into "out/../dump/out" id "dump")).run scribbling d).result =
        .error (.uncreatableOutput "out/../dump/out" e.message) ∧
      ((plan (into "out/../dump/out" id "dump")).run scribbling d).disk = d' := by
  have hrun := run_of_read (j := into "out/../dump/out" id "dump") (Disk.readText_of_read hread)
  rw [runFrom_drawingPlan (j := into "out/../dump/out" id "dump") _ hmade] at hrun
  rw [hrun]
  exact ⟨rfl, rfl⟩

/-- The second comparison does not end as it does alone. -/
structure Case.Disturbed (x : Case) : Prop where
  left : ((plan x.first).run scribbling x.disk).disk = x.left
  ends : ¬ EndsJustAs x.second ((plan x.second).run scribbling x.disk)
    ((plan x.second).run scribbling x.left).result ((plan x.second).run scribbling x.left).disk

theorem left_of_read {x : Case} (hread : x.disk.read x.first.input = .ok (.ofText dump))
    (hleft : ((drawingPlan x.first analysis).runFrom scribbling [.readText x.first.input]
      x.disk).disk = x.left) :
    ((plan x.first).run scribbling x.disk).disk = x.left := by
  rw [run_of_read (Disk.readText_of_read hread), hleft]

/-- The results tell the difference. -/
theorem disturbed_of_result {x : Case} {f f' : Failure}
    (hleft : ((plan x.first).run scribbling x.disk).disk = x.left)
    (halone : ((plan x.second).run scribbling x.disk).result = .error f)
    (hthen : ((plan x.second).run scribbling x.left).result = .error f') (hne : f' ≠ f) :
    x.Disturbed := by
  refine ⟨hleft, fun hends => ?_⟩
  have hresult := hends.result
  rw [hthen, halone] at hresult
  exact hne (Except.error.inj hresult)

/-- The contents of a file tell the difference. -/
theorem disturbed_of_holds {x : Case} {p : String} {l : Location} {id : Nat} {c : Content}
    {a : Attributes} {y : Except DiskError (Location × Entry)} (hp : p ∈ x.second.outputs)
    (hleft : ((plan x.first).run scribbling x.disk).disk = x.left)
    (halone : ((plan x.second).run scribbling x.disk).disk = x.disk)
    (hthen : ((plan x.second).run scribbling x.left).disk = x.left)
    (hfile : x.left.stat p = .ok (l, .file id c a)) (hstat : x.disk.stat p = y)
    (hne : ∀ l id a, y ≠ .ok (l, .file id c a)) : x.Disturbed := by
  refine ⟨hleft, fun hends => ?_⟩
  have hholds := hends.holds p hp c
  rw [hthen, halone] at hholds
  obtain ⟨l', id', a', hstat'⟩ := hholds.mp ⟨l, id, a, hfile⟩
  exact hne l' id' a' (hstat.symm.trans hstat')

theorem disturbed_dumpBehindOutput : dumpBehindOutput.Disturbed := by
  have hread : dumpBehindOutput.left.readText "out/../dump" = .ok dump := Disk.readText_of_read rfl
  have hthen := congrArg Ran.result (run_of_read (j := dumpBehindOutput.second) hread)
  exact disturbed_of_result (left_of_read rfl rfl) rfl hthen nofun

theorem disturbed_filesBehindOutput : filesBehindOutput.Disturbed := by
  have hout : Disk.createDirAllFrom 1 filesBehindOutput.disk "out" =
      (also [out, file ["work", "original_ast-b.png"] 1 .empty] 2, none) := rfl
  have hmade : filesBehindOutput.disk.createDirAll "out/.." =
      (also [out, file ["work", "original_ast-b.png"] 1 .empty] 2, none) :=
    Disk.createDirAllFrom_of_parent rfl rfl rfl hout (e := .present) rfl
  have hleft := congrArg Ran.disk
    (runFrom_drawingPlan (j := filesBehindOutput.first) [.readText "dump"] hmade)
  exact disturbed_of_holds (p := "out/../original_ast-b.png") (by decide)
    (left_of_read rfl hleft) rfl rfl rfl rfl nofun

theorem disturbed_dumpWritten : dumpWritten.Disturbed := by
  have hread : dumpWritten.left.readText "./original_ast-a.png" = .ok dump :=
    Disk.readText_of_read rfl
  have hthen := congrArg Ran.result (run_of_read (j := dumpWritten.second) hread)
  exact disturbed_of_result (left_of_read rfl rfl) rfl hthen nofun

theorem disturbed_fileLinked : fileLinked.Disturbed :=
  disturbed_of_holds (p := "original_ast-b.png") (by decide) (left_of_read rfl rfl)
    rfl rfl rfl rfl nofun

theorem disturbed_fileShared : fileShared.Disturbed := by
  have hne : Content.empty ≠ .ofText dump := by
    intro hempty
    have htext := Content.text?_ofText dump
    rw [← hempty] at htext
    revert htext
    decide
  refine disturbed_of_holds (p := "original_ast-b.png") (by decide) (left_of_read rfl rfl)
    rfl rfl rfl rfl fun l id a hsame => hne ?_
  injection hsame with hsame
  injection hsame with _ hsame
  injection hsame

theorem disturbed_slashInName : slashInName.Disturbed :=
  disturbed_of_holds (p := "original_ast-/../original_ast.png") (by decide) (left_of_read rfl rfl)
    rfl rfl rfl rfl nofun

theorem disturbed_dumpBehindFile : dumpBehindFile.Disturbed :=
  disturbed_of_result (left_of_read rfl rfl) rfl rfl (by decide)

theorem disturbed_outputBehindFile : outputBehindFile.Disturbed := by
  have hagain : (also [out] 1).createDirAll "out/../dump/out" =
      (also [out] 1, some .notDirectory) := rfl
  obtain ⟨-, hleft⟩ := run_below_dump "a" createDirAll_below_dump rfl
  obtain ⟨halone, -⟩ := run_below_dump "b" createDirAll_below_dump rfl
  obtain ⟨hthen, -⟩ := run_below_dump "b" hagain rfl
  exact disturbed_of_result hleft halone hthen (by decide)

theorem namedApart : ∀ x ∈ cases, NamedApart x.first x.second := by
  intro x hx
  simp only [cases, List.mem_cons, List.not_mem_nil, or_false] at hx
  -- Decided case by case: all the cases in one decision take the kernel a gigabyte.
  obtain rfl | rfl | rfl | rfl | rfl | rfl | rfl | rfl := hx <;> decide +kernel

theorem disturbed : ∀ x ∈ cases, x.Disturbed := by
  intro x hx
  simp only [cases, List.mem_cons, List.not_mem_nil, or_false] at hx
  obtain rfl | rfl | rfl | rfl | rfl | rfl | rfl | rfl := hx
  · exact disturbed_dumpBehindOutput
  · exact disturbed_filesBehindOutput
  · exact disturbed_dumpWritten
  · exact disturbed_fileLinked
  · exact disturbed_fileShared
  · exact disturbed_slashInName
  · exact disturbed_dumpBehindFile
  · exact disturbed_outputBehindFile

end Example

open Example in
/-- **Different names are not enough.** Where the comparisons meet at a dump or at a file, or where
a way leads through the output directory, or just in the words of the operating system, a comparison
that comes second does not end as it does alone. -/
theorem not_endsJustAs_of_namedApart : cases.length = 8 ∧ ∀ x ∈ cases,
    x.disk.Numbered ∧ NamedApart x.first x.second ∧ scribbling.backend.DrawsBlindly ∧
      ∃ r r' final,
        Plan.Interleaved scribbling scribbling (plan x.first) [] (plan x.second) [] x.disk
          r r' final ∧
        ¬ EndsJustAs x.second ((plan x.second).run scribbling x.disk) r' final := by
  have hnumbered : ∀ x ∈ cases,
      x.disk.entries.all (fun y => y.2.number?.all (· < x.disk.nextId)) = true := by
    decide
  refine ⟨rfl, fun x hx => ⟨numbered_of_all (hnumbered x hx), namedApart x hx, ⟨_, rfl⟩, _, _, _,
    Plan.interleaved_runFrom _ _ _ _ _, ?_⟩⟩
  obtain ⟨hleft, hends⟩ := disturbed x hx
  rw [← hleft] at hends
  exact hends

end Comparison

end AstCompare
