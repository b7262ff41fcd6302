import AstCompare.Proofs.ArtifactNames
import AstCompare.Proofs.DiskDirectories
import AstCompare.Proofs.Provenance

/-!
# What a failed comparison leaves behind

A comparison may fail at each of its steps. It removes the comparison picture of an earlier run only
once its dump has been read and its output directory has been made, so a failure before that leaves
the earlier picture where it is. After that nothing stands at the path of the comparison picture,
and what is written until the next failure is written through other paths. Those may lead to the
same place: by a link that an earlier run did not have to remove, or by slashes in the run id. There
is no other way for a file to be there.

## Main definitions

* `Disk.WrittenThrough`: disks that differ in what was written through some paths.
* `Layout.Backend.WritesOnlyOutput`: the backend writes nothing but the picture it is asked for.
* `Plan.moments`: every call of a run, as the host gets it.
* `Failure.precedesRemoval`: the failures that come before the removal.

## Main results

* `Comparison.isFile_comparison_of_failed`: what stands at the path of the comparison picture after
  a comparison that failed.
-/

namespace AstCompare

/-! ## Writing through some paths -/

namespace Disk

variable {d d' d'' : Disk} {p q : String} {ps qs : List String} {c : Content}

/-- The second disk comes from the first one by writing through these paths, any number of times. -/
inductive WrittenThrough (ps : List String) (d : Disk) : Disk → Prop where
  | refl : WrittenThrough ps d d
  | write {d' d'' : Disk} {p : String} {c : Content} (before : WrittenThrough ps d d')
      (mem : p ∈ ps) (wrote : d'.write p c = .ok d'') : WrittenThrough ps d d''

theorem isFile_iff : d.isFile p = true ↔ ∃ l id c a, d.stat p = .ok (l, .file id c a) := by
  unfold isFile
  split
  · rename_i l e hstat
    rw [hstat]
    cases e <;> simp [Entry.isFile]
  · rename_i x hstat
    rw [hstat]
    simp

/-- A file stays a file when something is written. -/
theorem isFile_of_write (h : d.write p c = .ok d') (hq : d.isFile q = true) :
    d'.isFile q = true := by
  obtain ⟨l, id, c₀, a, hstat⟩ := isFile_iff.mp hq
  by_cases hsame : d.SameFile q p
  · obtain ⟨l', id', a', hstat'⟩ := holds_of_write_sameFile hsame h
    exact isFile_iff.mpr ⟨l', id', c, a', hstat'⟩
  · obtain ⟨l', id', a', hstat'⟩ := holds_of_write_of_not_sameFile ⟨l, id, a, hstat⟩ hsame h
    exact isFile_iff.mpr ⟨l', id', c₀, a', hstat'⟩

/-- A file that is found after a write and was not there before has been made through a path that
leads to the same place. -/
theorem isFile_or_of_write (h : d.write p c = .ok d') (hq : d'.isFile q = true) :
    d.isFile q = true ∨ (d'.isFile p = true ∧ d'.locate p = d'.locate q) := by
  have hsame := SameButFiles.of_write h
  obtain ⟨m, id, c₁, a, hstat⟩ := isFile_iff.mp hq
  obtain ⟨hslash, hloc', hget'⟩ := locate_of_stat hstat
  have hloc : d.locate q = .ok m := hsame.locateWith_eq_ok.mp hloc'
  have hwas : ∀ {id c a}, d.get? m = some (.file id c a) → d.isFile q = true := fun hget =>
    isFile_iff.mpr ⟨m, _, _, _, (SameButFiles.refl d).stat_of_get? hslash hloc hget⟩
  obtain ⟨l, hlocp, hslashp, ⟨hgap, rfl⟩ | ⟨id', c₀, a', -, rfl⟩ | ⟨e, -, -, -, rfl⟩⟩ :=
    write_cases h
  · by_cases hm : m = l
    · subst hm
      refine .inr ⟨isFile_iff.mpr ⟨m, id, c₁, a, hsame.stat_of_get? hslashp hlocp hget'⟩, ?_⟩
      rw [hloc', locate, hsame.locateWith_eq_ok.mpr hlocp]
    · rw [get?_addFile_of_ne hm] at hget'
      exact .inl (hwas hget')
  · rw [get?_changeFile, Option.map_eq_some_iff] at hget'
    obtain ⟨e, hget, he⟩ := hget'
    cases e with
    | file i c₂ a₂ => exact .inl (hwas hget)
    | _ => cases he
  · exact .inl hq

namespace WrittenThrough

theorem trans (h : WrittenThrough ps d d') (h' : WrittenThrough ps d' d'') :
    WrittenThrough ps d d'' := by
  induction h' with
  | refl => exact h
  | write _ hmem hw ih => exact ih.write hmem hw

theorem mono (h : WrittenThrough ps d d') (hsub : ps ⊆ qs) : WrittenThrough qs d d' := by
  induction h with
  | refl => exact .refl
  | write _ hmem hw ih => exact ih.write (hsub hmem) hw

/-- A file that was not there was made through one of the paths, and that path still leads to it. -/
theorem exists_of_isFile (h : WrittenThrough ps d d') (hfree : d.hasEntry q = false)
    (hq : d'.isFile q = true) : ∃ p ∈ ps, d'.isFile p = true ∧ d'.locate p = d'.locate q := by
  induction h with
  | refl =>
    obtain ⟨l, id, c, a, hstat⟩ := isFile_iff.mp hq
    exact absurd hstat (hasEntry_eq_false_iff.mp hfree l _)
  | @write d₁ d₂ p c _ hmem hw ih =>
    obtain hwas | hmade := isFile_or_of_write hw hq
    · obtain ⟨r, hr, hfile, hloc⟩ := ih hwas
      refine ⟨r, hr, isFile_of_write hw hfile, ?_⟩
      -- the places stay where they are
      obtain ⟨m, id, c', a, hstat⟩ := isFile_iff.mp hwas
      have hlocq := (locate_of_stat hstat).2.1
      have hsame := SameButFiles.of_write hw
      rw [locate, locate, hsame.locateWith_eq_ok.mpr hlocq,
        hsame.locateWith_eq_ok.mpr (hloc.trans hlocq)]
    · exact ⟨p, hmem, hmade⟩

end WrittenThrough

theorem writtenThrough_save (d : Disk) (p : String) (q : Picture) :
    d.WrittenThrough [p] (d.save p q).1 := by
  unfold save
  split
  · exact .refl
  · rename_i hw
    exact .write .refl List.mem_cons_self hw

end Disk

/-- A backend that writes nothing but the picture it is asked for. -/
def Layout.Backend.WritesOnlyOutput (b : Layout.Backend) : Prop :=
  ∀ earlier r (d : Disk), d.WrittenThrough [r.output] (b.render earlier r d).2

/-! ## The moments of a run -/

/-- A call as a host gets it: after the earlier calls of the same run, and on a disk. -/
structure Moment where
  past : List Call
  disk : Disk
  call : Call

namespace Plan

variable {α : Type} {h : Host} {past past' past'' : List Call} {d d' d'' : Disk}
  {plan plan' plan'' : Plan α}

/-- Every call of a run, in order. -/
def moments (h : Host) (past : List Call) (d : Disk) : Plan α → List Moment
  | done _ => []
  | call c next =>
    ⟨past, d, c⟩ :: moments h (past ++ [c]) (h.perform past c d).2 (next (h.perform past c d).1)

/-- A plan has come to a point from which it goes on as another one. -/
structure Reaches (h : Host) (plan : Plan α) (past : List Call) (d : Disk) (plan' : Plan α)
    (past' : List Call) (d' : Disk) : Prop where
  run : plan.runFrom h past d = plan'.runFrom h past' d'
  moments : plan'.moments h past' d' ⊆ plan.moments h past d

namespace Reaches

theorem trans (h₁ : Reaches h plan past d plan' past' d')
    (h₂ : Reaches h plan' past' d' plan'' past'' d'') : Reaches h plan past d plan'' past'' d'' :=
  ⟨h₁.run.trans h₂.run, fun _ hx => h₁.moments (h₂.moments hx)⟩

theorem call (h : Host) (c : Call) (next : c.Reply → Plan α) (past : List Call) (d : Disk) :
    Reaches h (.call c next) past d (next (h.perform past c d).1) (past ++ [c])
      (h.perform past c d).2 :=
  ⟨rfl, fun _ hx => List.mem_cons_of_mem _ hx⟩

end Reaches

end Plan

/-! ## Failing step by step -/

/-- The failures of a comparison that come before it looks for the comparison picture of an earlier
run. -/
def Failure.precedesRemoval : Failure → Bool
  | unreadableInput _ _ | missingMarker _ | malformedTree _ _ | uncreatableOutput _ _ => true
  | _ => false

namespace Comparison

variable {h : Host} {past : List Call} {d : Disk} {j : Job} {a : Analysis} {s : Section}
  {f : Failure}

/-- A call that must succeed is the last one, or the comparison has come past it. -/
theorem ends_or_reaches {ε α β : Type} {c : Call} (v : c.Reply → Except ε α) {fail : ε → Failure}
    {next : α → Plan (Except Failure β)} :
    (∃ e, v (h.perform past c d).1 = .error e ∧
      (Plan.call c fun reply => orFail fail (v reply) next).runFrom h past d =
        ⟨.error (fail e), (h.perform past c d).2, past ++ [c]⟩) ∨
    ∃ x, v (h.perform past c d).1 = .ok x ∧
      Plan.Reaches h (.call c fun reply => orFail fail (v reply) next) past d (next x) (past ++ [c])
        (h.perform past c d).2 := by
  have hcall := Plan.Reaches.call h c (fun reply => orFail fail (v reply) next) past d
  cases hv : v (h.perform past c d).1 with
  | error e =>
    rw [hv] at hcall
    exact .inl ⟨e, rfl, hcall.run⟩
  | ok x =>
    rw [hv] at hcall
    exact .inr ⟨x, rfl, hcall⟩

/-- In a comparison that fails, a call at which it ends gives the failure. -/
theorem failed_or_reaches {ε α β : Type} {c : Call} (v : c.Reply → Except ε α) {fail : ε → Failure}
    {next : α → Plan (Except Failure β)}
    (herr : ((Plan.call c fun reply => orFail fail (v reply) next).runFrom h past d).result =
      .error f) :
    (∃ e, v (h.perform past c d).1 = .error e ∧ f = fail e ∧
      ((Plan.call c fun reply => orFail fail (v reply) next).runFrom h past d).disk =
        (h.perform past c d).2) ∨
    ∃ x, v (h.perform past c d).1 = .ok x ∧
      Plan.Reaches h (.call c fun reply => orFail fail (v reply) next) past d (next x) (past ++ [c])
        (h.perform past c d).2 := by
  obtain ⟨e, he, hrun⟩ | hreaches := ends_or_reaches v
  · rw [hrun] at herr ⊢
    exact .inl ⟨e, he, (Except.error.inj herr).symm, rfl⟩
  · exact .inr hreaches

theorem precedesRemoval_of_readSection {dump : Dump} {r : Reader}
    (hf : Analysis.readSection dump s r = .error f) : f.precedesRemoval = true := by
  unfold Analysis.readSection at hf
  split at hf
  · cases hf
  · cases hf
    rfl

theorem precedesRemoval_of_ofText {text : String} (hf : Analysis.ofText text = .error f) :
    f.precedesRemoval = true := by
  unfold Analysis.ofText at hf
  split at hf
  · cases hf
    rfl
  · rename_i dump _
    obtain ⟨s, r, e, hsection, hdump⟩ | ⟨before, after, -, -, hdump⟩ := Analysis.ofDump_cases dump
    · rw [hdump] at hf
      cases hf
      exact precedesRemoval_of_readSection hsection
    · rw [hdump] at hf
      cases hf

theorem precedesRemoval_of_analyse {input : String} {reply : Except DiskError String}
    (hf : analyse input reply = .error f) : f.precedesRemoval = true := by
  cases reply with
  | error e =>
    cases hf
    rfl
  | ok text => exact precedesRemoval_of_ofText hf

/-- The first call, and how the comparison goes on behind it. -/
theorem run_plan (h : Host) (j : Job) (d : Disk) :
    let next := afterAnalysis j (analyse j.input (h.perform [] (.readText j.input) d).1)
    (plan j).run h d = next.runFrom h [.readText j.input] d ∧
      (plan j).moments h [] d =
        ⟨[], d, .readText j.input⟩ :: next.moments h [.readText j.input] d := by
  rw [plan_eq_call]
  exact ⟨rfl, rfl⟩

/-- A dump that can be read and analysed takes the comparison to its output directory. -/
theorem run_of_analysis {text : String} (hread : (h.perform [] (.readText j.input) d).1 = .ok text)
    (ha : Analysis.ofText text = .ok a) :
    (plan j).run h d = (drawingPlan j a).runFrom h [.readText j.input] d ∧
      (plan j).moments h [] d =
        ⟨[], d, .readText j.input⟩ :: (drawingPlan j a).moments h [.readText j.input] d := by
  have hanalyse : analyse j.input (h.perform [] (.readText j.input) d).1 = .ok a := by
    rw [hread]
    exact ha
  have hplan := run_plan h j d
  rw [hanalyse] at hplan
  exact hplan

/-- A comparison that fails has not got as far as its output directory, or it has its analysis. -/
theorem failed_plan (herr : ((plan j).run h d).result = .error f) :
    (f.precedesRemoval = true ∧ ((plan j).run h d).disk = d) ∨
      ∃ a, Plan.Reaches h (plan j) [] d (drawingPlan j a) [.readText j.input] d := by
  obtain ⟨hrun, hmoments⟩ := run_plan h j d
  cases hanalyse : analyse j.input (h.perform [] (.readText j.input) d).1 with
  | error e =>
    rw [hrun, hanalyse] at herr ⊢
    cases herr
    exact .inl ⟨precedesRemoval_of_analyse hanalyse, rfl⟩
  | ok a =>
    rw [hanalyse] at hrun hmoments
    exact .inr ⟨a, hrun, by rw [hmoments]; exact List.subset_cons_self _ _⟩

/-- Where its removal is not refused, an earlier comparison picture is gone when the comparison goes
on. -/
theorem reaches_of_removeStale {path : String} {next : Plan (Except Failure Report)}
    (hremove : ∀ past' d', ⟨past', d', .remove path⟩ ∈ (removeStale path next).moments h past d →
      (h.perform past' (.remove path) d').1 = .ok ()) :
    ∃ past' d', Cleared d path d' ∧
      Plan.Reaches h (removeStale path next) past d next past' d' := by
  have hlook : Plan.Reaches h (removeStale path next) past d
      (if d.hasEntry path then removal path next else next)
      (past ++ [.hasEntry path]) d :=
    .call h (.hasEntry path) _ past d
  cases hhas : d.hasEntry path with
  | false =>
    rw [hhas, if_neg Bool.false_ne_true] at hlook
    exact ⟨past ++ [.hasEntry path], d, .inl ⟨hhas, rfl⟩, hlook⟩
  | true =>
    rw [hhas, if_pos rfl] at hlook
    have hok := hremove _ _ (hlook.moments List.mem_cons_self)
    obtain ⟨e, he, -⟩ | ⟨u, -, hgone⟩ := ends_or_reaches (c := .remove path) (fun r => r)
    · cases hok.symm.trans he
    · exact ⟨_, _, .inr ⟨hhas, perform_remove_eq_ok hok⟩, hlook.trans hgone⟩

theorem writtenThrough_writeText (path text : String) :
    d.WrittenThrough [path] (h.perform past (.writeText path text) d).2 := by
  rw [Host.perform_writeText]
  split
  · exact .refl
  · cases hw : d.write path (.ofText text) with
    | error e => exact .refl
    | ok d' => exact .write .refl List.mem_cons_self hw

/-- Until the picture of a section has been drawn, nothing is written but pictures and graph texts
of sections. -/
theorem failed_drawSection {next : Plan (Except Failure Report)} (hb : h.backend.WritesOnlyOutput)
    (herr : ((drawSection j a s next).runFrom h past d).result = .error f) :
    ∃ d', d.WrittenThrough j.drawn d' ∧
      ((f.precedesRemoval = false ∧ ((drawSection j a s next).runFrom h past d).disk = d') ∨
        ∃ past', Plan.Reaches h (drawSection j a s next) past d next past' d') := by
  have hdraw : ∀ past₁ d₁, ((renderSection j a s next).runFrom h past₁ d₁).result = .error f →
      ∃ d', d₁.WrittenThrough j.drawn d' ∧
        ((f.precedesRemoval = false ∧ ((renderSection j a s next).runFrom h past₁ d₁).disk = d') ∨
          ∃ past', Plan.Reaches h (renderSection j a s next) past₁ d₁ next past' d') := by
    intro past₁ d₁ herr
    have hwritten : d₁.WrittenThrough j.drawn
        (h.perform past₁ (.render (j.request a s)) d₁).2 :=
      (hb (past₁.filterMap Call.request?) (j.request a s) d₁).mono
        (by cases s <;> simp [Job.request, Job.drawn])
    refine ⟨_, hwritten, ?_⟩
    obtain ⟨e, -, rfl, hdisk⟩ | ⟨u, -, hreaches⟩ :=
      failed_or_reaches (c := .render (j.request a s)) (fun r => r) herr
    · exact .inl ⟨rfl, hdisk⟩
    · exact .inr ⟨_, hreaches⟩
  unfold drawSection at herr ⊢
  cases hkeep : j.keepDot with
  | false =>
    simp only [hkeep, Bool.false_eq_true, if_false] at herr ⊢
    exact hdraw past d herr
  | true =>
    simp only [hkeep, if_true] at herr ⊢
    have hkept : d.WrittenThrough j.drawn
        (h.perform past (.writeText (j.dotPath s) (a.graph j.palette s).text) d).2 :=
      (writtenThrough_writeText _ _).mono (by cases s <;> simp [Job.drawn])
    obtain ⟨e, -, rfl, hdisk⟩ | ⟨u, -, hreaches⟩ :=
      failed_or_reaches (c := .writeText _ _) (fun r => r) herr
    · exact ⟨_, hkept, .inl ⟨rfl, hdisk⟩⟩
    · rw [hreaches.run] at herr ⊢
      obtain ⟨d', hwritten, hend⟩ := hdraw _ _ herr
      refine ⟨d', hkept.trans hwritten, ?_⟩
      obtain hend | ⟨past', hnext⟩ := hend
      · exact .inl hend
      · exact .inr ⟨past', hreaches.trans hnext⟩

/-- Composing writes nothing when it fails, if a save does not. -/
theorem failed_composePictures
    (hsave : ∀ past' d' q e,
      ⟨past', d', .save j.artifacts.comparison q⟩ ∈ (composePictures j a).moments h past d →
        (h.perform past' (.save j.artifacts.comparison q) d').1 = .error e →
          (h.perform past' (.save j.artifacts.comparison q) d').2 = d')
    (herr : ((composePictures j a).runFrom h past d).result = .error f) :
    f.precedesRemoval = false ∧ ((composePictures j a).runFrom h past d).disk = d := by
  unfold composePictures loadPicture at herr hsave ⊢
  obtain ⟨e, -, rfl, hdisk⟩ | ⟨left, -, hleft⟩ := failed_or_reaches (c := .load _) (fun r => r) herr
  · exact ⟨rfl, hdisk⟩
  rw [hleft.run] at herr ⊢
  obtain ⟨e, -, rfl, hdisk⟩ | ⟨right, -, hright⟩ :=
    failed_or_reaches (c := .load _) (fun r => r) herr
  · exact ⟨rfl, hdisk⟩
  rw [hright.run] at herr ⊢
  obtain ⟨e, he, rfl, hdisk⟩ | ⟨u, -, hsaved⟩ :=
    failed_or_reaches (c := .save _ _) (fun r => r) herr
  · refine ⟨rfl, hdisk.trans ?_⟩
    exact hsave _ _ _ e (hleft.moments (hright.moments List.mem_cons_self)) he
  · rw [hsaved.run] at herr
    cases herr

/-! ## What is left -/

theorem head?_fileName (n : Naming) :
    (n.fileName "ast_comparison").toList.head? = some 'a' := by
  cases n <;> simp [Naming.fileName]

/-- Where the comparison picture is a file, the output directory is there. -/
theorem isDirectory_outputDir (hdir : j.outputDir ≠ "")
    (hfile : d.isFile j.artifacts.comparison = true) : d.isDirectory j.outputDir = true := by
  obtain ⟨l, id, c, a, hstat⟩ := Disk.isFile_iff.mp hfile
  have hhead := head?_fileName j.naming
  have hrel : Path.isAbsolute (j.naming.fileName "ast_comparison") = false := by
    rw [Path.isAbsolute, hhead]
    rfl
  exact Disk.isDirectory_of_join (Disk.locate_of_stat hstat).2.1 hdir hrel
    (Path.filter_pieces_ne_nil hhead (by decide) (by decide))

/-- An output directory that cannot be made holds no comparison picture, neither before nor
after. -/
theorem isFile_comparison_of_uncreatable {e : DiskError}
    (he : (h.perform past (.createDirAll j.outputDir) d).1 = .error e) :
    (h.perform past (.createDirAll j.outputDir) d).2.isFile j.artifacts.comparison =
      d.isFile j.artifacts.comparison := by
  rw [Host.perform_createDirAll] at he ⊢
  cases hrefused : h.refusals.createDir with
  | true => rfl
  | false =>
    rw [hrefused] at he
    have hmade := Disk.createDirAll_eq_none_iff d j.outputDir
    cases hdir : d.createDirAll j.outputDir with
    | mk d' x =>
      cases x with
      | none =>
        rw [hdir] at he
        cases he
      | some e' =>
        rw [hdir] at hmade
        have hempty : j.outputDir ≠ "" := fun hempty => nomatch hmade.mpr (.inl hempty)
        have hafter : d'.isFile j.artifacts.comparison = false := by
          rw [Bool.eq_false_iff]
          exact fun hfile => nomatch hmade.mpr (.inr (isDirectory_outputDir hempty hfile))
        have hbefore : d.isFile j.artifacts.comparison = false := by
          rw [Bool.eq_false_iff]
          intro hfile
          have hsame := Disk.createDirAll_of_isDirectory (.inr (isDirectory_outputDir hempty hfile))
          rw [hdir] at hsame
          cases hsame
        simp only [Bool.false_eq_true, if_false]
        rw [hafter, hbefore]

/-- A name that is no link leads to its place in the output directory. -/
theorem eq_of_locate_join {base l : Location} {name : String} (hn : j.naming.Plain)
    (hname : name ∈ j.naming.names) (hbase : d.Base j.outputDir base)
    (hlink : ¬ d.NamesLink (Path.join j.outputDir name))
    (hloc : d.locate (Path.join j.outputDir name) = .ok l) : l = base ++ [name] := by
  obtain ⟨hmoves, hdots⟩ := Naming.moves_of_mem_names hname
  rw [Disk.locate, Disk.locateWith_join hbase (hn.slash_notMem hname) hmoves hlink] at hloc
  split at hloc
  · cases hloc
  · split at hloc
    · cases hloc
    · exact Disk.step_of_moves hmoves hdots hloc

/-- Where no link is in the way, the pictures and texts of the sections have other places than the
comparison picture. -/
theorem locate_ne_comparison (hn : j.naming.Plain) (hlinks : ∀ p ∈ j.outputs, ¬ d.NamesLink p)
    (hfile : d.isFile j.artifacts.comparison = true) {p : String} (hp : p ∈ j.drawn) :
    d.locate p ≠ d.locate j.artifacts.comparison := by
  intro hsame
  obtain ⟨l, id, c, a, hstat⟩ := Disk.isFile_iff.mp hfile
  have hloc := (Disk.locate_of_stat hstat).2.1
  have hdir : j.outputDir = "" ∨ d.isDirectory j.outputDir = true :=
    or_iff_not_imp_left.mpr fun hempty => isDirectory_outputDir hempty hfile
  obtain ⟨base, hbase⟩ := Disk.exists_base hdir
  -- the comparison picture has the first of the names, and the others are different from it
  obtain ⟨first, rest, hnames⟩ : ∃ first rest, j.naming.names = first :: rest := ⟨_, _, rfl⟩
  have hpaths := j.outputs_eq hn
  rw [hnames, List.map_cons, Job.outputs] at hpaths
  obtain ⟨hfirst, hrest⟩ := List.cons.inj hpaths
  rw [hrest] at hp
  obtain ⟨name, hname, rfl⟩ := List.mem_map.mp hp
  have hne : first ≠ name := by
    have hnodup := j.naming.nodup_names
    rw [hnames] at hnodup
    rintro rfl
    exact (List.nodup_cons.mp hnodup).1 hname
  have hmem : ∀ s ∈ j.naming.names, ¬ d.NamesLink (Path.join j.outputDir s) := fun s hs =>
    hlinks _ (j.outputs_eq hn ▸ List.mem_map_of_mem hs)
  have hl := eq_of_locate_join hn (hnames ▸ List.mem_cons_self) hbase
    (hmem first (hnames ▸ List.mem_cons_self)) (hfirst ▸ hloc)
  have hl' := eq_of_locate_join hn (hnames ▸ List.mem_cons_of_mem first hname) hbase
    (hmem name (hnames ▸ List.mem_cons_of_mem first hname)) (hsame.trans hloc)
  rw [hl] at hl'
  exact hne (List.cons.inj (List.append_cancel_left hl')).1

/-- A comparison that fails later has made its removal, and then written through the paths of its
sections only. -/
theorem failed_drawingPlan (hb : h.backend.WritesOnlyOutput)
    (hremove : ∀ past' d', ⟨past', d', .remove j.artifacts.comparison⟩ ∈
        (drawingPlan j a).moments h past d →
      (h.perform past' (.remove j.artifacts.comparison) d').1 = .ok ())
    (hsave : ∀ past' d' q e, ⟨past', d', .save j.artifacts.comparison q⟩ ∈
        (drawingPlan j a).moments h past d →
      (h.perform past' (.save j.artifacts.comparison q) d').1 = .error e →
        (h.perform past' (.save j.artifacts.comparison q) d').2 = d')
    (herr : ((drawingPlan j a).runFrom h past d).result = .error f) :
    (f.precedesRemoval = true ∧
      ((drawingPlan j a).runFrom h past d).disk.isFile j.artifacts.comparison =
        d.isFile j.artifacts.comparison) ∨
    (f.precedesRemoval = false ∧ ∃ cleared, Disk.hasEntry cleared j.artifacts.comparison = false ∧
      cleared.WrittenThrough j.drawn ((drawingPlan j a).runFrom h past d).disk) := by
  obtain ⟨e, he, rfl, hdisk⟩ | ⟨u, -, hmade⟩ :=
    failed_or_reaches (c := .createDirAll _) (fun r => r) herr
  · refine .inl ⟨rfl, ?_⟩
    rw [drawingPlan, hdisk]
    exact isFile_comparison_of_uncreatable he
  · refine .inr ?_
    obtain ⟨past₁, cleared, hcleared, hremoved⟩ :=
      reaches_of_removeStale fun past' d' hx => hremove past' d' (hmade.moments hx)
    have hreached := hmade.trans hremoved
    have hfree : cleared.hasEntry j.artifacts.comparison = false := by
      obtain ⟨hfree, rfl⟩ | ⟨-, hgone⟩ := hcleared
      · exact hfree
      · exact Disk.hasEntry_of_remove j.endsInSlash_comparison hgone
    rw [drawingPlan, hreached.run]
    rw [drawingPlan, hreached.run] at herr
    obtain ⟨d₁, hwritten₁, ⟨hlate, hdisk⟩ | ⟨past₂, hdrawn₁⟩⟩ := failed_drawSection hb herr
    · rw [hdisk]
      exact ⟨hlate, cleared, hfree, hwritten₁⟩
    rw [hdrawn₁.run] at herr ⊢
    obtain ⟨d₂, hwritten₂, ⟨hlate, hdisk⟩ | ⟨past₃, hdrawn₂⟩⟩ := failed_drawSection hb herr
    · rw [hdisk]
      exact ⟨hlate, cleared, hfree, hwritten₁.trans hwritten₂⟩
    rw [hdrawn₂.run] at herr ⊢
    have hall := (hreached.trans hdrawn₁).trans hdrawn₂
    obtain ⟨hlate, hdisk⟩ := failed_composePictures
      (fun past' d' q e hx => hsave past' d' q e (hall.moments hx)) herr
    rw [hdisk]
    exact ⟨hlate, cleared, hfree, hwritten₁.trans hwritten₂⟩

/-- Where nothing was at the path of the comparison picture, a file is there only by a path of the
sections that leads to the same place. -/
theorem isFile_comparison_of_writtenThrough {cleared left : Disk}
    (hfree : cleared.hasEntry j.artifacts.comparison = false)
    (hwritten : cleared.WrittenThrough j.drawn left) :
    (left.isFile j.artifacts.comparison = true ↔
      ∃ p ∈ j.drawn, left.isFile p = true ∧ left.locate p = left.locate j.artifacts.comparison) ∧
    (j.naming.Plain → (∀ p ∈ j.outputs, ¬ left.NamesLink p) →
      left.isFile j.artifacts.comparison = false) := by
  have hexists := hwritten.exists_of_isFile hfree
  refine ⟨⟨hexists, ?_⟩, fun hn hlinks => Bool.eq_false_iff.mpr fun hfile => ?_⟩
  · rintro ⟨p, -, hfile, hloc⟩
    obtain ⟨l, id, c, x, hstat⟩ := Disk.isFile_iff.mp hfile
    obtain ⟨-, hlocp, hget⟩ := Disk.locate_of_stat hstat
    exact Disk.isFile_iff.mpr ⟨l, id, c, x, (Disk.SameButFiles.refl left).stat_of_get?
      j.endsInSlash_comparison (hloc ▸ hlocp) hget⟩
  · obtain ⟨p, hp, -, hloc⟩ := hexists hfile
    exact locate_ne_comparison hn hlinks hfile hp hloc

/-- **What a failed comparison leaves behind.** Let a comparison fail, with a backend that writes
only the pictures it is asked for, without a removal that is refused, and without a failing save
that writes. If it fails before the removal, the comparison picture of an earlier run stays exactly
if it was there. If it fails later, a file is at its place exactly if a path of the sections leads
there as well, which takes a link or a run id with a slash in it. -/
theorem isFile_comparison_of_failed (hb : h.backend.WritesOnlyOutput)
    (herr : ((plan j).run h d).result = .error f)
    (hremove : ∀ past d', ⟨past, d', .remove j.artifacts.comparison⟩ ∈ (plan j).moments h [] d →
      (h.perform past (.remove j.artifacts.comparison) d').1 = .ok ())
    (hsave : ∀ past d' q e, ⟨past, d', .save j.artifacts.comparison q⟩ ∈ (plan j).moments h [] d →
      (h.perform past (.save j.artifacts.comparison q) d').1 = .error e →
        (h.perform past (.save j.artifacts.comparison q) d').2 = d') :
    let left := ((plan j).run h d).disk
    (f.precedesRemoval = true →
      left.isFile j.artifacts.comparison = d.isFile j.artifacts.comparison) ∧
    (f.precedesRemoval = false →
      (left.isFile j.artifacts.comparison = true ↔
        ∃ p ∈ j.drawn, left.isFile p = true ∧ left.locate p = left.locate j.artifacts.comparison) ∧
      (j.naming.Plain → (∀ p ∈ j.outputs, ¬ left.NamesLink p) →
        left.isFile j.artifacts.comparison = false)) := by
  intro left
  obtain ⟨hearly, hdisk⟩ | ⟨a, hreached⟩ := failed_plan herr
  · refine ⟨fun _ => congrArg (fun d => d.isFile j.artifacts.comparison) hdisk, fun hlate => ?_⟩
    rw [hearly] at hlate
    cases hlate
  · have hleft : left = ((drawingPlan j a).runFrom h [.readText j.input] d).disk :=
      congrArg Ran.disk hreached.run
    rw [Plan.run, hreached.run] at herr
    obtain ⟨hearly, hfile⟩ | ⟨hlate, cleared, hfree, hwritten⟩ := failed_drawingPlan hb
      (fun past' d' hx => hremove past' d' (hreached.moments hx))
      (fun past' d' q e hx => hsave past' d' q e (hreached.moments hx)) herr
    · rw [← hleft] at hfile
      refine ⟨fun _ => hfile, fun hlate => ?_⟩
      rw [hearly] at hlate
      cases hlate
    · rw [← hleft] at hwritten
      refine ⟨fun hearly => ?_, fun _ => isFile_comparison_of_writtenThrough hfree hwritten⟩
      rw [hlate] at hearly
      cases hearly

namespace Example

open Session.Example

/-- A host whose layout backend fails and leaves the disk alone. -/
def failing : Host where
  backend := ⟨fun _ _ d => (.error (.layout "no layout" none), d), fun d => (.ok "", d)⟩

theorem failing_writesOnlyOutput : failing.backend.WritesOnlyOutput :=
  fun _ _ _ => .refl

/-- A comparison picture of an earlier run, and no dump. -/
def stale : List (String × Nat × Content) :=
  [("ast_comparison.png", 1, .picture pixel)]

/-- The comparison picture has been removed, and nothing has been drawn. -/
def removed : Disk :=
  disk start [⟨1, .picture pixel, { mode := 0o644 }⟩]

theorem run_unreadable : (plan job).run failing (disk stale) =
    ⟨.error (.unreadableInput "dump" (DiskError.message .notFound)), disk stale,
      [.readText "dump"]⟩ :=
  rfl

/-- The calls before the removal of the comparison picture. -/
def looked : List Call :=
  [.readText "dump", .createDirAll "", .hasEntry "ast_comparison.png"]

theorem run_failing : ((plan job).run failing (disk (stale ++ start))).disk = removed ∧
    ((plan job).run failing (disk (stale ++ start))).result =
      .error (.backend "render original_ast.png" (Failure.layout "no layout" none).causes) ∧
    (plan job).moments failing [] (disk (stale ++ start)) =
      [⟨[], disk (stale ++ start), .readText "dump"⟩,
        ⟨looked.take 1, disk (stale ++ start), .createDirAll ""⟩,
        ⟨looked.take 2, disk (stale ++ start), .hasEntry "ast_comparison.png"⟩,
        ⟨looked, disk (stale ++ start), .remove "ast_comparison.png"⟩,
        ⟨looked ++ [.remove "ast_comparison.png"], removed,
          .render (job.request analysis .before)⟩] := by
  have htext : (disk (stale ++ start)).readText "dump" = .ok dump := Disk.readText_of_read rfl
  have hread : (failing.perform [] (.readText job.input) (disk (stale ++ start))).1 = .ok dump :=
    htext
  obtain ⟨hrun, hmoments⟩ := run_of_analysis hread ofText_dump
  rw [hrun, hmoments]
  exact ⟨rfl, rfl, rfl⟩

end Example

open Session.Example Example in
/-- A comparison whose dump is missing leaves the comparison picture of an earlier run. One whose
layout fails does not. -/
theorem isFile_comparison_of_failed_stale :
    (∃ f, ((plan job).run failing (disk stale)).result = .error f ∧
      ((plan job).run failing (disk stale)).disk.isFile job.artifacts.comparison = true) ∧
    ∃ f, ((plan job).run failing (disk (stale ++ start))).result = .error f ∧
      (disk (stale ++ start)).isFile job.artifacts.comparison = true ∧
      ((plan job).run failing (disk (stale ++ start))).disk.isFile job.artifacts.comparison =
        false := by
  refine ⟨⟨_, congrArg Ran.result run_unreadable, ?_⟩, _, run_failing.2.1, rfl, ?_⟩
  · have hmoments : (plan job).moments failing [] (disk stale) =
        [⟨[], disk stale, .readText "dump"⟩] := rfl
    refine ((isFile_comparison_of_failed failing_writesOnlyOutput
      (congrArg Ran.result run_unreadable) ?_ ?_).1 rfl).trans rfl
    · intro past d' hx
      rw [hmoments] at hx
      simp at hx
    · intro past d' q e hx
      rw [hmoments] at hx
      simp at hx
  · obtain ⟨hdisk, herr, hmoments⟩ := run_failing
    refine ((isFile_comparison_of_failed failing_writesOnlyOutput herr ?_ ?_).2 rfl).2 trivial ?_
    · intro past d' hx
      rw [hmoments] at hx
      obtain ⟨rfl, rfl, -⟩ : past = looked ∧ d' = disk (stale ++ start) ∧ _ := by simpa using hx
      rfl
    · intro past d' q e hx
      rw [hmoments] at hx
      simp at hx
    · have hnames : ∀ p ∈ job.outputs, removed.lstat p = .error .notFound := by
        decide
      rw [hdisk]
      rintro p hp ⟨l, t, hlink⟩
      rw [hnames p hp] at hlink
      cases hlink

end Comparison

end AstCompare
