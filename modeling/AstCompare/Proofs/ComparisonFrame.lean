import AstCompare.Proofs.DiskFrame
import AstCompare.Proofs.DrawnStatus
import AstCompare.Proofs.EffectOrder

/-!
# What a comparison leaves alone

Once its output directory is there and the comparison picture of an earlier run is gone, a
comparison does nothing but write through its own paths. So all that it can change is known:
directories that were missing at or above the output directory, the place that the comparison
picture is named by, and the files that its own paths lead to. Everything else is as it was, however
the comparison ends.

This is about places, and not about paths. Another path may lead to one of those files, by a link,
by another name of the file or by other words. And a path that led nowhere may lead to an old file
after the comparison, if it goes through the output directory.

## Main definitions

* `Comparison.Job.touched`: the paths through which a comparison writes.
* `Comparison.Job.Touches`: the places that a comparison may change.
* `Comparison.Job.Framed`: nothing else differs between two disks.
* `Comparison.KeepsTexts`: what the graph texts are that a comparison keeps.

## Main results

* `Comparison.exists_cleared`: a comparison makes a directory, removes a picture, and then writes.
* `Comparison.framed_run`: the frame of a comparison.
* `Comparison.exists_written_of_writeText`: what is done after a graph text has been kept.
* `Comparison.frame_of_comparison`: what a comparison changes, and what the texts hold that it
  keeps.
-/

namespace AstCompare

/-! ## Calls that look or write -/

/-- The call looks at the disk, or writes through one of these paths. -/
def Call.WritesOnly (ps : List String) : Call → Prop
  | readText _ | hasEntry _ | load _ => True
  | writeText p _ | save p _ => p ∈ ps
  | render r => r.output ∈ ps
  | createDirAll _ | remove _ => False

variable {h : Host} {past : List Call} {d : Disk}

theorem Host.writtenThrough_perform {c : Call} {ps : List String} (hb : h.backend.WritesOnlyOutput)
    (hc : c.WritesOnly ps) : d.WrittenThrough ps (h.perform past c d).2 := by
  have hsub : ∀ {p}, p ∈ ps → [p] ⊆ ps := fun hp => List.cons_subset.mpr ⟨hp, List.nil_subset ps⟩
  cases c with
  | readText | hasEntry | load => exact .refl
  | createDirAll | remove => exact absurd hc id
  | writeText p s => exact (Comparison.writtenThrough_writeText p s).mono (hsub hc)
  | render r => exact (hb (past.filterMap Call.request?) r d).mono (hsub hc)
  | save p q =>
    have hwritten := (d.writtenThrough_save p q).mono (hsub hc)
    rw [perform_save]
    split <;> (rename_i hsaved; rwa [hsaved] at hwritten)

namespace Plan

variable {α : Type} {plan : Plan α}

/-- A run that looks and writes has written through those paths. -/
theorem writtenThrough_runFrom {ps : List String} (hb : h.backend.WritesOnlyOutput)
    (hall : ∀ m ∈ plan.moments h past d, m.call.WritesOnly ps) :
    d.WrittenThrough ps (plan.runFrom h past d).disk := by
  induction plan generalizing past d with
  | done a => exact .refl
  | call c next ih =>
    rw [moments, List.forall_mem_cons] at hall
    exact (Host.writtenThrough_perform hb hall.1).trans (ih _ hall.2)

/-- What comes after a call is a run of its own. -/
theorem exists_rest {earlier later : List Moment} {m : Moment}
    (hsplit : plan.moments h past d = earlier ++ m :: later) :
    ∃ rest : Plan α,
      later = rest.moments h (m.past ++ [m.call]) (h.perform m.past m.call m.disk).2 ∧
      plan.runFrom h past d =
        rest.runFrom h (m.past ++ [m.call]) (h.perform m.past m.call m.disk).2 := by
  induction plan generalizing past d earlier with
  | done a => simp [moments] at hsplit
  | call c next ih =>
    obtain ⟨rfl, hrest⟩ | ⟨before, rfl, hrest⟩ := List.cons_eq_append_iff.mp hsplit
    · obtain ⟨rfl, rfl⟩ := List.cons.inj hrest
      exact ⟨_, rfl, rfl⟩
    · exact ih _ hrest

end Plan

/-! ## The course of any comparison -/

namespace Comparison

variable {j : Job} {a : Analysis} {s : Section} {f : Failure}

namespace Job

/-- The paths through which a comparison writes: its three pictures, and the graph texts if they are
kept. -/
def touched (j : Job) : List String :=
  [j.artifacts.comparison, j.picturePath .before, j.picturePath .after] ++
    if j.keepDot then [j.dotPath .before, j.dotPath .after] else []

theorem touched_subset_outputs (j : Job) : j.touched ⊆ j.outputs := by
  unfold touched
  split <;> simp [outputs, drawn]

end Job

/-- What comes before a section in the script. -/
def leadIn (j : Job) (a : Analysis) (stale : Bool) : Section → List Call
  | .before =>
    [.readText j.input, .createDirAll j.outputDir, .hasEntry j.artifacts.comparison] ++
      if stale then [.remove j.artifacts.comparison] else []
  | .after => preparation j a stale ++ [.render (j.request a .before)]

/-- What comes after the picture of a section in the script. -/
def followUp (j : Job) (a : Analysis) (q : Picture) : Section → List Call
  | .before =>
    keeping j a .after ++ [.render (j.request a .after), .load j.artifacts.before,
      .load j.artifacts.after, .save j.artifacts.comparison q]
  | .after => [.load j.artifacts.before, .load j.artifacts.after, .save j.artifacts.comparison q]

theorem script_eq (j : Job) (a : Analysis) (stale : Bool) (q : Picture) (s : Section) :
    script j a stale q =
      leadIn j a stale s ++ keeping j a s ++ .render (j.request a s) :: followUp j a q s := by
  cases s <;> simp [script, preparation, leadIn, followUp]

/-- What is called for after the removal only writes. -/
theorem writesOnly_of_mem_script {q : Picture} {c : Call}
    (hc : c ∈ keeping j a .before ++ .render (j.request a .before) :: followUp j a q .before) :
    c.WritesOnly j.touched := by
  revert c
  unfold followUp keeping Job.touched
  cases j.keepDot <;>
    simp [Call.WritesOnly, Job.request]

/-- Drawing and composing only write. -/
theorem writtenThrough_drawing (hb : h.backend.WritesOnlyOutput) (j : Job) (a : Analysis)
    (past : List Call) (d : Disk) :
    d.WrittenThrough j.touched ((drawSection j a .before <| drawSection j a .after <|
      composePictures j a).runFrom h past d).disk := by
  obtain ⟨q, hf⟩ := exists_follows_drawSection past d j a .before
    fun past d => exists_follows_drawSection past d j a .after
      fun past d => exists_follows_composePictures h past d j a
  exact Plan.writtenThrough_runFrom hb fun m hm =>
    writesOnly_of_mem_script (hf.calls.subset (List.mem_map_of_mem hm))

/-- An output directory is made as far as that is possible, unless it is refused. -/
theorem disk_perform_createDirAll (h : Host) (past : List Call) (d : Disk) (path : String) :
    (h.perform past (.createDirAll path) d).2 = d ∨
      (h.perform past (.createDirAll path) d).2 = d.withDir path := by
  rw [Host.perform_createDirAll, Disk.withDir]
  by_cases hrefused : h.refusals.createDir
  · exact .inl (by rw [if_pos hrefused])
  · refine .inr ?_
    rw [if_neg hrefused]
    obtain ⟨d', reply⟩ := d.createDirAll path
    cases reply <;> rfl

theorem perform_remove_of_error {path : String} {e : DiskError}
    (he : (h.perform past (.remove path) d).1 = .error e) :
    (h.perform past (.remove path) d).2 = d := by
  rw [Host.perform_remove] at he ⊢
  by_cases hrefused : h.refusals.remove
  · rw [if_pos hrefused]
  · rw [if_neg hrefused] at he ⊢
    cases hr : d.remove path with
    | error e' => rfl
    | ok d' =>
      rw [hr] at he
      cases he

/-- An earlier comparison picture is removed, or not, and then the comparison writes. -/
theorem writtenThrough_removeStale {path : String} {next : Plan (Except Failure Report)}
    {ps : List String}
    (hnext : ∀ past (d : Disk), d.WrittenThrough ps (next.runFrom h past d).disk) :
    ∃ cleared, (cleared = d ∨ d.remove path = .ok cleared) ∧
      cleared.WrittenThrough ps ((removeStale path next).runFrom h past d).disk := by
  rw [(goesOn_removeStale h past d path next).run]
  split
  · obtain ⟨e, he, hrun⟩ | ⟨u, hu, hreaches⟩ := ends_or_reaches (c := .remove path) (fun r => r)
    · refine ⟨d, .inl rfl, ?_⟩
      rw [removal, hrun, perform_remove_of_error he]
      exact .refl
    · rw [removal, hreaches.run]
      exact ⟨_, .inr (perform_remove_eq_ok hu), hnext _ _⟩
  · exact ⟨d, .inl rfl, hnext _ _⟩

/-- A comparison leaves the disk as it is, or it makes its output directory as far as that is
possible, perhaps removes the comparison picture of an earlier run, and then writes through its
paths. -/
theorem exists_cleared (hb : h.backend.WritesOnlyOutput) (j : Job) (d : Disk) :
    ((plan j).run h d).disk = d ∨
      ∃ cleared, (cleared = d.withDir j.outputDir ∨
          (d.withDir j.outputDir).remove j.artifacts.comparison = .ok cleared) ∧
        cleared.WrittenThrough j.touched ((plan j).run h d).disk := by
  cases hanalysis : ((analysisPlan j.input).run h d).result with
  | error f => exact .inl (congrArg Ran.disk (run_of_analysis_error hanalysis).1)
  | ok a =>
    obtain ⟨text, hread, ha⟩ := exists_text_of_analysis hanalysis
    rw [(run_of_analysis hread ha).1]
    obtain ⟨e, -, hrun⟩ | ⟨u, hu, hreaches⟩ :=
      ends_or_reaches (c := .createDirAll j.outputDir) (fun r => r)
    · rw [drawingPlan, hrun]
      obtain hsame | hdir := disk_perform_createDirAll h [.readText j.input] d j.outputDir
      · exact .inl hsame
      · rw [hdir]
        exact .inr ⟨_, .inl rfl, .refl⟩
    · have hdir : (h.perform [.readText j.input] (.createDirAll j.outputDir) d).2 =
          d.withDir j.outputDir := by
        rw [Disk.withDir, perform_createDirAll_eq_ok hu]
      rw [drawingPlan, hreaches.run, hdir]
      exact .inr (writtenThrough_removeStale (writtenThrough_drawing hb j a))

/-! ## What changes -/

namespace Job

/-- The places that a comparison may change, if it leaves the disk `left`. -/
inductive Touches (j : Job) (d left : Disk) (l : Location) : Prop
  /-- A directory is missing there. -/
  | made (hl : d.MissingFor j.outputDir l)
  /-- The path of the comparison picture names it. -/
  | named (hl : (d.withDir j.outputDir).locateName j.artifacts.comparison = .ok l)
  /-- One of the paths leads there, or to another name of the same file. -/
  | written {p : String} {m : Location} (hp : p ∈ j.touched) (hloc : left.locate p = .ok m)
      (hl : l = m ∨ left.Linked l m)

/-- Nothing else than what a comparison may change differs. -/
structure Framed (j : Job) (d left : Disk) : Prop where
  /-- All other places are as they were. -/
  places : ∀ l, ¬ j.Touches d left l → left.get? l = d.get? l
  /-- The paths that led there still do. -/
  paths : ¬ (d.withDir j.outputDir).NamesLink j.artifacts.comparison →
    ∀ p l e, ¬ j.Touches d left l → d.stat p = .ok (l, e) → left.stat p = .ok (l, e)
  /-- No other path leads there, if the output directory was there before. -/
  noOther : ¬ (d.withDir j.outputDir).NamesLink j.artifacts.comparison →
    (j.outputDir = "" ∨ d.isDirectory j.outputDir = true) →
    ∀ p l e, ¬ j.Touches d left l → left.stat p = .ok (l, e) → d.stat p = .ok (l, e)
  /-- Where no link is in the way, what may change is in the output directory and has one of the
  names, if it is no missing directory and no further name of such a file. -/
  names : j.naming.Plain → (∀ p ∈ j.outputs, ¬ (d.withDir j.outputDir).NamesLink p) →
    ∀ base, (d.withDir j.outputDir).Base j.outputDir base → ∀ l, j.Touches d left l →
      d.MissingFor j.outputDir l ∨
        ∃ name ∈ j.naming.names, Path.join j.outputDir name ∈ j.touched ∧
          (l = base ++ [name] ∨ left.Linked l (base ++ [name]))

end Job

section Frame

variable {cleared left : Disk}
  (hcleared : cleared = d.withDir j.outputDir ∨
    (d.withDir j.outputDir).remove j.artifacts.comparison = .ok cleared)
  (hwritten : cleared.WrittenThrough j.touched left)

include hcleared hwritten

theorem get?_of_not_touches {l : Location} (hl : ¬ j.Touches d left l) :
    left.get? l = d.get? l := by
  have hwrite : left.get? l = cleared.get? l := by
    refine (hwritten.get?_eq_or l).resolve_right ?_
    rintro ⟨p, hp, m, hloc, hm⟩
    exact hl (.written hp hloc hm)
  have hremove : cleared.get? l = (d.withDir j.outputDir).get? l := by
    obtain rfl | hremove := hcleared
    · rfl
    · obtain ⟨m, e, hloc, -, -, rfl⟩ := Disk.remove_cases hremove
      exact Disk.get?_erase_of_ne fun heq => hl (.named (heq ▸ hloc))
  have hmake : (d.withDir j.outputDir).get? l = d.get? l :=
    (d.get?_withDir j.outputDir l).resolve_right fun hgap => hl (.made hgap)
  rw [hwrite, hremove, hmake]

/-- Paths mean what they mean once the output directory is there. -/
theorem sameWays_of_cleared (hlink : ¬ (d.withDir j.outputDir).NamesLink j.artifacts.comparison) :
    (d.withDir j.outputDir).SameWays left := by
  refine .trans ?_ hwritten.sameButFiles.sameWays
  obtain rfl | hremove := hcleared
  · exact (Disk.SameButFiles.refl _).sameWays
  · obtain ⟨m, e, hloc, hget, hdir, rfl⟩ := Disk.remove_cases hremove
    refine Disk.sameWays_apply (x := .erase m) ⟨e, hget, hdir, ?_⟩
    cases e with
    | link t =>
      refine absurd ⟨m, t, Disk.statAt_eq_ok_iff.mpr ⟨hloc, hget, fun hslash => ?_⟩⟩ hlink
      rw [j.endsInSlash_comparison] at hslash
      cases hslash
    | _ => rfl

end Frame

/-- A path that names no link leads to its name in the output directory, in whatever way it is
looked up. -/
theorem exists_name_of_locateWith {base l : Location} {p : String} {whole : Bool}
    (hn : j.naming.Plain) (hp : p ∈ j.outputs) (hbase : d.Base j.outputDir base)
    (hlink : ¬ d.NamesLink p) (hloc : d.locateWith whole p = .ok l) :
    ∃ name ∈ j.naming.names, p = Path.join j.outputDir name ∧ l = base ++ [name] := by
  rw [j.outputs_eq hn] at hp
  obtain ⟨name, hname, rfl⟩ := List.mem_map.mp hp
  obtain ⟨hmoves, -⟩ := Naming.moves_of_mem_names hname
  have hsame : d.locate (Path.join j.outputDir name) = .ok l := by
    rw [← hloc, Disk.locate]
    exact (Disk.locateWith_join hbase (hn.slash_notMem hname) hmoves hlink _).trans
      (Disk.locateWith_join hbase (hn.slash_notMem hname) hmoves hlink _).symm
  exact ⟨name, hname, rfl, eq_of_locate_join hn hname hbase hlink hsame⟩

/-- **The frame of a comparison.** -/
theorem framed_run (hb : h.backend.WritesOnlyOutput) (j : Job) (d : Disk) :
    j.Framed d ((plan j).run h d).disk := by
  have hrun := exists_cleared hb j d
  generalize ((plan j).run h d).disk = left at hrun
  have hways : ¬ (d.withDir j.outputDir).NamesLink j.artifacts.comparison →
      left = d ∨ (d.withDir j.outputDir).SameWays left := by
    intro hlink
    obtain rfl | ⟨cleared, hcleared, hwritten⟩ := hrun
    · exact .inl rfl
    · exact .inr (sameWays_of_cleared hcleared hwritten hlink)
  have hplaces : ∀ l, ¬ j.Touches d left l → left.get? l = d.get? l := by
    intro l hl
    obtain rfl | ⟨cleared, hcleared, hwritten⟩ := hrun
    · rfl
    · exact get?_of_not_touches hcleared hwritten hl
  refine ⟨hplaces, fun hlink p l e hl hstat => ?_, fun hlink hthere p l e hl hstat => ?_,
    fun hn hlinks base hbase l hl => ?_⟩
  · obtain rfl | hsame := hways hlink
    · exact hstat
    · obtain ⟨hloc, hget, hslash⟩ := Disk.statAt_eq_ok_iff.mp hstat
      have hloc := hsame.locateWith_eq_ok.mpr ((Disk.Extends.withDir d j.outputDir).locateWith hloc)
      exact Disk.statAt_eq_ok_iff.mpr ⟨hloc, (hplaces l hl).trans hget, hslash⟩
  · obtain rfl | hsame := hways hlink
    · exact hstat
    · rw [Disk.withDir_of_isDirectory hthere] at hsame
      obtain ⟨hloc, hget, hslash⟩ := Disk.statAt_eq_ok_iff.mp hstat
      exact Disk.statAt_eq_ok_iff.mpr
        ⟨hsame.locateWith_eq_ok.mp hloc, (hplaces l hl).symm.trans hget, hslash⟩
  · have hcomparison : j.artifacts.comparison ∈ j.touched := List.mem_cons_self
    cases hl with
    | made hgap => exact .inl hgap
    | named hloc =>
      obtain ⟨name, hname, hpath, rfl⟩ := exists_name_of_locateWith hn List.mem_cons_self hbase
        (hlinks _ List.mem_cons_self) hloc
      exact .inr ⟨name, hname, hpath ▸ hcomparison, .inl rfl⟩
    | @written p m hp hloc hm =>
      have hout := j.touched_subset_outputs hp
      have hloc : (d.withDir j.outputDir).locate p = .ok m := by
        obtain rfl | hsame := hways (hlinks _ List.mem_cons_self)
        · exact (Disk.Extends.withDir _ j.outputDir).locateWith hloc
        · exact hsame.locateWith_eq_ok.mp hloc
      obtain ⟨name, hname, hpath, rfl⟩ :=
        exists_name_of_locateWith hn hout hbase (hlinks p hout) hloc
      exact .inr ⟨name, hname, hpath ▸ hp, hm⟩

/-! ## Graph texts that are kept -/

/-- The graph texts that a comparison keeps. -/
structure KeepsTexts (h : Host) (j : Job) (d : Disk) (a : Analysis) : Prop where
  /-- No texts are written but those of the sections, and only if they are to be kept. -/
  only : ∀ m ∈ (plan j).moments h [] d, ∀ p text, m.call = .writeText p text →
    j.keepDot = true ∧ ∃ s, p = j.dotPath s ∧ text = (j.request a s).dot
  /-- What the backend is asked to draw at the path of a section's picture is the text of that
  section. -/
  handed : ∀ r ∈ ((plan j).run h d).requests, ∀ s, r.output = j.picturePath s → r = j.request a s
  /-- A text that the backend is asked to draw has been kept before, if it is to be kept. -/
  kept : ∀ s, j.request a s ∈ ((plan j).run h d).requests → j.keepDot = true →
    ∃ m ∈ (plan j).moments h [] d, m.call = .writeText (j.dotPath s) (j.request a s).dot ∧
      m.failure? h = none
  /-- It is what the command prints for the section. -/
  printed : ∀ s (w : CommandLine.World) b (st : Settings) localDir,
    w.disk = d → st.colors = j.palette →
    CommandLine.execute w b st localDir (.dot j.input s) = .printed d (.text (j.request a s).dot)
  /-- It is in the file afterwards, if no other path of the comparison leads to that file. -/
  held : j.naming.Plain → ∀ m ∈ (plan j).moments h [] d, ∀ p text,
    m.call = .writeText p text → m.failure? h = none → ((plan j).run h d).disk.isFile p = true →
      (∀ p' ∈ j.touched, ((plan j).run h d).disk.SameFile p p' → p' = p) →
        ((plan j).run h d).disk.Holds p (.ofText text)

theorem request_ne (j : Job) (a : Analysis) : j.request a .before ≠ j.request a .after := fun heq =>
  text_graph_ne a j.palette (congrArg Layout.Request.dot heq)

section Script

variable {stale : Bool} {q : Picture}

theorem writeText_mem_script {p text : String} (hc : .writeText p text ∈ script j a stale q) :
    j.keepDot = true ∧ ∃ s, p = j.dotPath s ∧ text = (j.request a s).dot := by
  unfold script preparation keeping at hc
  cases hkeep : j.keepDot <;> cases stale <;> simp [hkeep] at hc
  all_goals
    obtain hc | hc := hc
    · exact ⟨rfl, .before, hc⟩
    · exact ⟨rfl, .after, hc⟩

/-- The text of a section is written once, and before its picture is drawn. -/
theorem notMem_of_mem_keeping (stale : Bool) (q : Picture) {c : Call} (hc : c ∈ keeping j a s) :
    c ∉ leadIn j a stale s ∧ c ∉ .render (j.request a s) :: followUp j a q s := by
  have htext := text_graph_ne a j.palette
  unfold keeping at hc
  split at hc
  · obtain rfl := List.mem_singleton.mp hc
    unfold leadIn followUp preparation keeping
    cases s <;> cases stale <;> cases j.keepDot <;> simp [htext, htext.symm]
  · exact absurd hc List.not_mem_nil

theorem render_notMem (s : Section) :
    .render (j.request a s) ∉ leadIn j a stale s ++ keeping j a s := by
  have hne := request_ne j a
  unfold leadIn preparation keeping
  cases s <;> cases stale <;> cases j.keepDot <;> simp [hne.symm]

/-- After the text of a section, nothing is written at its path. -/
theorem writesOnly_others {c : Call} (hn : j.naming.Plain)
    (hc : c ∈ .render (j.request a s) :: followUp j a q s) :
    c.WritesOnly (j.touched.filter (· != j.dotPath s)) := by
  have hnodup := j.nodup_outputs hn
  simp only [Job.outputs, Job.drawn, List.nodup_cons, List.mem_cons, not_or] at hnodup
  revert c
  unfold followUp keeping Job.touched
  cases s <;> cases j.keepDot <;> simp [Call.WritesOnly, Job.request] <;> grind

variable (hf : Plan.Follows h [] d (plan j) (script j a stale q))

include hf

theorem exists_kept_of_render {m : Moment} (hm : m ∈ (plan j).moments h [] d)
    (hrender : m.call = .render (j.request a s)) :
    ∀ c ∈ keeping j a s, ∃ m' ∈ (plan j).moments h [] d, m'.call = c ∧ m'.failure? h = none := by
  intro c hc
  rw [script_eq j a stale q s] at hf
  obtain hcalls | ⟨earlier, _, later, hsplit, hearlier, -⟩ := hf.calls_cases
  · exact absurd (hcalls.subset (hrender ▸ List.mem_map_of_mem hm)) (render_notMem s)
  · have hc : c ∈ earlier.map Moment.call := by
      rw [hearlier]
      exact List.mem_append_right _ hc
    obtain ⟨m', hm', rfl⟩ := List.mem_map.mp hc
    exact ⟨m', hsplit ▸ List.mem_append_left _ hm', rfl, hf.failure?_of_mem hsplit hm'⟩

/-- What is done after a graph text has been kept: something is written through the other paths. -/
theorem exists_written_of_writeText {m : Moment} {p text : String} (hb : h.backend.WritesOnlyOutput)
    (hn : j.naming.Plain) (hm : m ∈ (plan j).moments h [] d) (hcall : m.call = .writeText p text)
    (hok : m.failure? h = none) :
    ∃ before after : Disk, before.write p (.ofText text) = .ok after ∧
      after.WrittenThrough (j.touched.filter (· != p)) ((plan j).run h d).disk := by
  have hmem := hf.calls.subset (List.mem_map_of_mem hm)
  rw [hcall] at hmem
  obtain ⟨hkeep, s, rfl, rfl⟩ := writeText_mem_script hmem
  have hkeeping : keeping j a s = [.writeText (j.dotPath s) (j.request a s).dot] := by
    rw [keeping, if_pos hkeep]
    rfl
  obtain ⟨hlead, hfollow⟩ := notMem_of_mem_keeping stale q (hkeeping ▸ List.mem_singleton_self _)
  rw [script_eq j a stale q s, hkeeping, List.append_assoc, List.singleton_append] at hf
  obtain ⟨earlier, later, hsplit, -, hlater⟩ := hf.exists_split hlead hfollow hm hcall
  obtain ⟨rest, hrest, hrun⟩ := Plan.exists_rest hsplit
  obtain ⟨past, before, c⟩ := m
  cases hcall
  refine ⟨before, (h.perform past (.writeText (j.dotPath s) (j.request a s).dot) before).2, ?_, ?_⟩
  · cases hreply : (h.perform past (.writeText (j.dotPath s) (j.request a s).dot) before).1 with
    | ok u => exact perform_writeText_eq_ok hreply
    | error e =>
      rw [Moment.failure?, hreply] at hok
      cases hok
  · rw [Plan.run, hrun]
    refine Plan.writtenThrough_runFrom hb fun m' hm' => ?_
    exact writesOnly_others hn (hlater.subset (List.mem_map_of_mem (hrest ▸ hm')))

theorem keepsTexts_of_follows (hb : h.backend.WritesOnlyOutput)
    (hok : ((analysisPlan j.input).run h d).result = .ok a) :
    KeepsTexts h j d a where
  only m hm p text hcall :=
    writeText_mem_script (hcall ▸ hf.calls.subset (List.mem_map_of_mem hm))
  handed r hr s hout := by
    have hr := (inOrder_of_follows hf).requests.subset hr
    obtain ⟨s', rfl⟩ : ∃ s', r = j.request a s' := by
      obtain rfl | rfl : r = j.request a .before ∨ r = j.request a .after := by simpa using hr
      · exact ⟨.before, rfl⟩
      · exact ⟨.after, rfl⟩
    rw [Job.picturePath_inj hout]
  kept s hr hkeep := by
    rw [requests_run, List.mem_filterMap] at hr
    obtain ⟨c, hc, hrender⟩ := hr
    obtain ⟨m, hm, rfl⟩ := List.mem_map.mp hc
    have hcall : m.call = .render (j.request a s) := by
      cases hc : m.call <;> rw [hc] at hrender <;> simp_all [Call.request?]
    refine exists_kept_of_render hf hm hcall _ ?_
    rw [keeping, if_pos hkeep]
    exact List.mem_singleton_self _
  printed s w b st localDir hdisk hcolors := by
    obtain ⟨text, hread, ha⟩ := exists_text_of_analysis hok
    have hread := perform_readText_eq_ok hread
    subst hdisk
    rw [Job.request, ← hcolors]
    exact CommandLine.withAnalysis_of_read hread ha b _
  held hn m hm p text hcall hkept hfile hothers := by
    obtain ⟨before, after, hwrite, hwritten⟩ := exists_written_of_writeText hf hb hn hm hcall hkept
    refine Disk.holds_of_write_of_writtenThrough hwrite hwritten hfile fun p' hp' hsame => ?_
    obtain ⟨hp', hne⟩ := List.mem_filter.mp hp'
    simp [hothers p' hp' hsame] at hne

end Script

/-- **What a comparison leaves alone.** However it ends, and for every naming, a comparison with a
backend that writes only the pictures it is asked for changes nothing but directories that were
missing at or above its output directory, the place that the comparison picture is named by, and the
files that its own paths lead to. A dump that cannot be read or analysed is all that is looked at.
The graph texts that are kept are those that the backend is asked to draw and that the command
prints, and they are in their files afterwards, unless another path of the comparison leads to such
a file. -/
theorem frame_of_comparison (hb : h.backend.WritesOnlyOutput) (j : Job) (d : Disk) :
    j.Framed d ((plan j).run h d).disk ∧
    (∀ f, ((analysisPlan j.input).run h d).result = .error f →
      (plan j).run h d = ⟨.error f, d, [.readText j.input]⟩) ∧
    ∀ a, ((analysisPlan j.input).run h d).result = .ok a → KeepsTexts h j d a := by
  refine ⟨framed_run hb j d, fun f herr => (run_of_analysis_error herr).1, fun a hok => ?_⟩
  obtain ⟨stale, q, hf⟩ := exists_follows_plan hok
  exact keepsTexts_of_follows hf hb hok

namespace Example

open Session.Example

/-- What is compared, into a directory that is not there and with the graph texts kept. -/
def outJob : Job :=
  { job with outputDir := "out", keepDot := true }

/-- The directory has been made, and the first text has been kept. -/
def textKept : Disk :=
  { disk start with
    entries := (["work", "out", "original_ast.dot"],
        .file 1 (.ofText (outJob.request analysis .before).dot) { mode := 0o644 }) ::
      (["work", "out"], .directory {}) :: (disk start).entries
    nextId := 2 }

theorem run_outJob : ((analysisPlan outJob.input).run failing (disk start)).result = .ok analysis ∧
    ((plan outJob).run failing (disk start)).disk = textKept ∧
    ∃ m ∈ (plan outJob).moments failing [] (disk start),
      m.call = .writeText (outJob.dotPath .before) (outJob.request analysis .before).dot ∧
        m.failure? failing = none := by
  have htext : (disk start).readText "dump" = .ok dump := Disk.readText_of_read rfl
  have hread : (failing.perform [] (.readText outJob.input) (disk start)).1 = .ok dump := htext
  obtain ⟨hrun, hmoments⟩ := run_of_analysis hread ofText_dump
  refine ⟨(result_analysisPlan_of_read hread).trans ofText_dump, ?_, ?_⟩
  · rw [hrun]
    rfl
  · rw [hmoments]
    exact ⟨_, .tail _ (.tail _ (.tail _ (.head _))), rfl, rfl⟩

/-- The dump is none of the places that may change: the paths lead to other files, or to none. -/
theorem not_touches_dump : ¬ outJob.Touches (disk start) textKept ["work", "dump"] := by
  have hother : ∀ p ∈ outJob.touched, (textKept.locate p).toOption.all
      (fun m => m != ["work", "dump"] && textKept.numberAt m != some 0) = true := by
    decide
  rintro (hgap | hnamed | ⟨hp, hloc, hm⟩)
  · cases hgap.1
  · revert hnamed
    decide
  · have hother := hother _ hp
    rw [hloc] at hother
    obtain ⟨hplace, hnumber⟩ := Bool.and_eq_true_iff.mp hother
    obtain rfl | hlinked := hm
    · exact bne_iff_ne.mp hplace rfl
    · exact bne_iff_ne.mp hnumber hlinked.2.symm

end Example

open Session.Example Example in
/-- A comparison whose layout fails has left the dump as it was, and the first graph text is in its
file. -/
theorem frame_of_comparison_textKept :
    let left := ((plan outJob).run failing (disk start)).disk
    left.Holds "dump" (.ofText dump) ∧
      left.Holds (outJob.dotPath .before) (.ofText (outJob.request analysis .before).dot) := by
  obtain ⟨hanalysis, hdisk, m, hmem, hcall, hok⟩ := run_outJob
  obtain ⟨hframe, -, hkeeps⟩ := frame_of_comparison failing_writesOnlyOutput outJob (disk start)
  have hlink : ¬ ((disk start).withDir outJob.outputDir).NamesLink outJob.artifacts.comparison := by
    rintro ⟨l, t, hlstat⟩
    have hnone : ((disk start).withDir outJob.outputDir).lstat outJob.artifacts.comparison =
        .error .notFound := by
      decide
    cases hnone.symm.trans hlstat
  refine ⟨⟨_, _, _, hframe.paths hlink "dump" ["work", "dump"] _ (hdisk ▸ not_touches_dump) rfl⟩,
    (hkeeps analysis hanalysis).held trivial m hmem _ _ hcall hok ?_ ?_⟩
  · rw [hdisk]
    rfl
  · -- the other paths lead nowhere yet
    have hother : ∀ p ∈ outJob.touched, (textKept.stat p).toOption.all
        (fun x => x.2.number? != some 1 || p == outJob.dotPath .before) = true := by
      decide
    rw [hdisk]
    rintro p hp ⟨l, l', id, c, c', x, x', hstat, hstat'⟩
    cases hstat
    have hother := hother p hp
    rw [hstat'] at hother
    simpa [Except.toOption, Entry.number?] using hother

open Session.Example Example in
/-- **A path may lead to an old file that it did not lead to before.** It is none of the paths of
the comparison, and it goes through the output directory. -/
theorem holds_of_path_through_output :
    failing.backend.WritesOnlyOutput ∧ outJob.naming.Plain ∧
      "out/../dump" ∉ outJob.outputs ∧ ¬ Path.AtOrAbove "out/../dump" outJob.outputDir ∧
      (disk start).stat "out/../dump" = .error .notFound ∧
      ((plan outJob).run failing (disk start)).disk.Holds "out/../dump" (.ofText dump) := by
  refine ⟨failing_writesOnlyOutput, trivial, by decide, fun habove => ?_, rfl, ?_⟩
  · -- the parents of the output directory end with the empty path
    have hparent : Path.parent? outJob.outputDir = some "" ∧ Path.parent? "" = none := by decide
    obtain heq | ⟨q, hq, habove⟩ := Relation.ReflTransGen.cases_head habove
    · revert heq
      decide
    · obtain rfl := Option.some.inj (hparent.1.symm.trans hq)
      obtain heq | ⟨q, hq, -⟩ := Relation.ReflTransGen.cases_head habove
      · revert heq
        decide
      · cases hparent.2.symm.trans hq
  · rw [run_outJob.2.1]
    exact ⟨_, _, _, rfl⟩

end Comparison

end AstCompare
