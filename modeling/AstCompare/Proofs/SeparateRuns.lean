import AstCompare.Proofs.CallEffects
import AstCompare.Proofs.Leftovers

/-!
# Comparisons with separate files

A comparison keeps to its own files once its output directory is there. If two comparisons have
different names for their files, and if none of these is a link or a second name of a file, what one
of them does is not noticed by the other one: the disk looks the same at its own places.

## Main definitions

* `Plan.Only`: a plan keeps to some paths.
* `Comparison.Separate`: the comparisons have nothing in common but the output directory.
* `Comparison.Settled`: the disks that come about once the output directory has been made.

## Main results

* `Comparison.only_picturesPlan`: a comparison keeps to its own files.
* `Comparison.Separate.apart`: different names are names of different files.
* `Comparison.Settled.sameAt`: disks that look alike to a comparison agree about the paths of its
  files.
-/

namespace AstCompare

/-- All calls of the plan are about these paths. -/
inductive Plan.Only {α : Type} (ps : List String) : Plan α → Prop where
  | done (a : α) : Only ps (.done a)
  | call {c : Call} {next : c.Reply → Plan α} {p : String} (about : c.artifact? = some p)
      (mem : p ∈ ps) (on : ∀ r, Only ps (next r)) : Only ps (.call c next)

namespace Disk

variable {d d' : Disk} {l m : Location} {p q dir : String} {ps : List String}

/-- The disk once the directory has been made, as far as that is possible. -/
def withDir (d : Disk) (dir : String) : Disk :=
  (d.createDirAll dir).1

/-- The places that the paths lead to. -/
def places (d : Disk) (ps : List String) : List Location :=
  ps.filterMap fun p => (d.locate p).toOption

/-- The paths lead to one place, or to names of one file. -/
def Meet (d : Disk) (p q : String) : Prop :=
  ∃ l m, d.locate p = .ok l ∧ d.locate q = .ok m ∧ (l = m ∨ d.Linked l m)

theorem mem_places : l ∈ d.places ps ↔ ∃ p ∈ ps, d.locate p = .ok l := by
  have hok : ∀ x : Except DiskError Location, x.toOption = some l ↔ x = .ok l := by
    intro x
    cases x <;> simp [Except.toOption]
  simp [places, hok]

theorem nextId_createDirAllFrom (fuel : Nat) (d : Disk) (p : String) :
    (createDirAllFrom fuel d p).1.nextId = d.nextId := by
  have hmade : ∀ {d d' : Disk} {p : String}, d.createDir p = .ok d' → d'.nextId = d.nextId := by
    intro d d' p hmade
    obtain ⟨l, -, -, rfl⟩ := createDir_cases hmade
    rfl
  fun_induction createDirAllFrom fuel d p with
  | case1 | case7 | case8 | case9 => rfl
  | case2 _ _ _ _ hm => exact hmade hm
  | case3 _ _ _ _ _ _ _ _ hparent ih
  | case5 _ _ _ _ _ _ _ hparent _ _ _ ih
  | case6 _ _ _ _ _ _ _ hparent _ _ _ ih =>
    rw [hparent] at ih
    exact ih
  | case4 _ _ _ _ _ _ _ hparent _ hm ih =>
    rw [hparent] at ih
    exact (hmade hm).trans ih

/-- Directories have no numbers. -/
theorem Numbered.withDir (h : d.Numbered) (dir : String) : (d.withDir dir).Numbered := by
  intro l n hl
  obtain ⟨c, a, hget⟩ := numberAt_eq_some hl
  have hget' : d.get? l = some (.file n c a) := get?_of_createDirAllFrom rfl hget
  have hnumber : d.numberAt l = some n := by
    rw [numberAt, hget']
    rfl
  rw [Disk.withDir, createDirAll, nextId_createDirAllFrom]
  exact h l n hnumber

theorem SameWays.isDirectory (h : SameWays d d') (hp : d.isDirectory p = true) :
    d'.isDirectory p = true := by
  obtain ⟨l, a, hstat⟩ := exists_stat_of_isDirectory hp
  obtain ⟨hloc, hget, hslash⟩ := statAt_eq_ok_iff.mp hstat
  have hstat' : d'.stat p = .ok (l, .directory a) :=
    statAt_eq_ok_iff.mpr ⟨h.locateWith_eq_ok.mpr hloc, (h.get l _ (.inl rfl)).mpr hget, hslash⟩
  rw [Disk.isDirectory, hstat']
  rfl

/-- Two names of one file lead to that file. -/
theorem sameFile_of_linked (hp : endsInSlash p = false) (hq : endsInSlash q = false)
    (hloc : d.locate p = .ok l) (hloc' : d.locate q = .ok m) (h : d.Linked l m) :
    d.SameFile p q := by
  obtain ⟨n, hn⟩ := Option.isSome_iff_exists.mp h.1
  obtain ⟨c, a, hget⟩ := numberAt_eq_some hn
  obtain ⟨c', a', hget'⟩ := numberAt_eq_some (h.2.symm.trans hn)
  exact ⟨l, m, n, c, c', a, a', (SameButFiles.refl d).stat_of_get? hp hloc hget,
    (SameButFiles.refl d).stat_of_get? hq hloc' hget'⟩

end Disk

namespace Comparison

/-! ## What a comparison calls for -/

section

variable {j : Job} {a : Analysis} {s : Section}

/-- The reply to a call that makes a directory, and the disk. -/
def madeReply : Disk × Option DiskError → Except DiskError Unit × Disk
  | (d, none) => (.ok (), d)
  | (d, some e) => (.error e, d)

theorem only_orFail {ε α : Type} {ps : List String} {fail : ε → Failure} {r : Except ε α}
    {next : α → Plan (Except Failure Report)} (hnext : ∀ x, (next x).Only ps) :
    (orFail fail r next).Only ps := by
  cases r with
  | error e => exact .done _
  | ok x => exact hnext x

theorem only_composePictures (j : Job) (a : Analysis) : (composePictures j a).Only j.outputs := by
  refine .call rfl (by simp [Job.outputs, Job.drawn, Job.picturePath]) fun _ =>
    only_orFail fun left => ?_
  refine .call rfl (by simp [Job.outputs, Job.drawn, Job.picturePath]) fun _ =>
    only_orFail fun right => ?_
  exact .call rfl (by simp [Job.outputs]) fun _ => only_orFail fun _ => .done _

theorem only_drawSection {next : Plan (Except Failure Report)} (hnext : next.Only j.outputs) :
    (drawSection j a s next).Only j.outputs := by
  have hdraw : (renderSection j a s next).Only j.outputs :=
    .call rfl (by cases s <;> simp [Job.outputs, Job.drawn, Job.request]) fun _ =>
      only_orFail fun _ => hnext
  unfold drawSection
  cases j.keepDot with
  | false => exact hdraw
  | true =>
    exact .call rfl (by cases s <;> simp [Job.outputs, Job.drawn]) fun _ =>
      only_orFail fun _ => hdraw

/-- Once the output directory is there, a comparison keeps to its own files. -/
theorem only_picturesPlan (j : Job) (a : Analysis) : (picturesPlan j a).Only j.outputs := by
  have hnext := only_drawSection (a := a) (s := .before)
    (only_drawSection (a := a) (s := .after) (only_composePictures j a))
  refine .call rfl (by simp [Job.outputs]) fun there => ?_
  cases there with
  | false => exact hnext
  | true => exact .call rfl (by simp [Job.outputs]) fun _ => only_orFail fun _ => hnext

end

/-! ## Comparisons that have nothing in common -/

/-- The places that a comparison writes to. -/
def Job.written (j : Job) (ground : Disk) : List Location :=
  ground.places j.outputs

/-- The places that a comparison looks at. -/
def Job.seen (j : Job) (ground : Disk) : List Location :=
  ground.places (j.input :: j.outputs)

/-- The comparisons have one output directory and different names for their files. None of the files
is a link, and none has a name in the other comparison. No dump is a file of the other comparison.
What the paths of dumps and files lead to does not depend on whether the output directory has been
made. -/
structure Separate (start : Disk) (dir : String) (j k : Job) : Prop where
  numbered : start.Numbered
  outputDir : j.outputDir = dir ∧ k.outputDir = dir
  naming : j.naming ≠ k.naming
  plain : j.naming.Plain ∧ k.naming.Plain
  noLinks : ∀ p ∈ j.outputs ++ k.outputs, ¬ (start.withDir dir).NamesLink p
  files : ∀ p ∈ j.outputs, ∀ q ∈ k.outputs, ¬ (start.withDir dir).SameFile p q
  dumps : (∀ q ∈ k.outputs, ¬ (start.withDir dir).Meet j.input q) ∧
    ∀ p ∈ j.outputs, ¬ (start.withDir dir).Meet k.input p
  found : ∀ p ∈ j.input :: k.input :: (j.outputs ++ k.outputs),
    (start.withDir dir).found p = start.found p

section

variable {start : Disk} {dir : String} {j k : Job} {d d' : Disk} {l : Location} {p : String}
  {x : Effect}

namespace Separate

theorem symm (h : Separate start dir j k) : Separate start dir k j where
  numbered := h.numbered
  outputDir := h.outputDir.symm
  naming := h.naming.symm
  plain := h.plain.symm
  noLinks p hp := h.noLinks p (List.mem_append.mpr (List.mem_append.mp hp).symm)
  files p hp q hq := fun ⟨l, l', id, c, c', a, a', hstat, hstat'⟩ =>
    h.files q hq p hp ⟨l', l, id, c', c, a', a, hstat', hstat⟩
  dumps := h.dumps.symm
  found p hp := h.found p (by
    simp only [List.mem_cons, List.mem_append] at hp ⊢
    tauto)

/-- The files of a comparison have their names in the output directory. -/
theorem exists_name (h : Separate start dir j k) (hp : p ∈ j.outputs) :
    ∃ name ∈ j.naming.names, p = Path.join dir name := by
  rw [j.outputs_eq h.plain.1, h.outputDir.1] at hp
  obtain ⟨name, hname, rfl⟩ := List.mem_map.mp hp
  exact ⟨name, hname, rfl⟩

theorem endsInSlash (h : Separate start dir j k) (hp : p ∈ j.outputs) :
    Disk.endsInSlash p = false := by
  obtain ⟨name, hname, rfl⟩ := h.exists_name hp
  refine Disk.endsInSlash_join (h.plain.1.slash_notMem hname) ?_
  rintro rfl
  cases (Naming.moves_of_mem_names hname).1

/-- A file that has a place has it in the output directory. -/
theorem exists_base (h : Separate start dir j k) (hp : p ∈ j.outputs)
    (hloc : (start.withDir dir).locate p = .ok l) : ∃ base, (start.withDir dir).Base dir base := by
  obtain ⟨name, hname, rfl⟩ := h.exists_name hp
  have hslash := h.plain.1.slash_notMem hname
  refine Disk.exists_base (or_iff_not_imp_left.mpr fun hdir => ?_)
  refine Disk.isDirectory_of_join hloc hdir (Path.isAbsolute_of_notMem hslash) ?_
  rw [Path.pieces_of_notMem hslash]
  simp [(Naming.moves_of_mem_names hname).1]

theorem eq_append {base : Location} (h : Separate start dir j k)
    (hbase : (start.withDir dir).Base dir base) (hp : p ∈ j.outputs)
    (hloc : (start.withDir dir).locate p = .ok l) :
    ∃ name ∈ j.naming.names, l = base ++ [name] := by
  have hlink := h.noLinks p (List.mem_append_left _ hp)
  obtain ⟨name, hname, rfl⟩ := h.exists_name hp
  obtain ⟨rfl, -⟩ := h.outputDir
  exact ⟨name, hname, eq_of_locate_join h.plain.1 hname hbase hlink hloc⟩

/-- **Different names, different files.** -/
theorem apart (h : Separate start dir j k) : (start.withDir dir).Apart
    (j.seen (start.withDir dir)) (k.written (start.withDir dir)) := by
  intro l hl m hm
  obtain ⟨q, hq, hlocq⟩ := Disk.mem_places.mp hm
  obtain ⟨p, hp, hlocp⟩ := Disk.mem_places.mp hl
  obtain rfl | hp := List.mem_cons.mp hp
  · refine ⟨fun hlm => h.dumps.1 q hq ⟨l, m, hlocp, hlocq, .inl hlm⟩, fun hlinked => ?_⟩
    exact h.dumps.1 q hq ⟨l, m, hlocp, hlocq, .inr hlinked⟩
  · obtain ⟨base, hbase⟩ := h.exists_base hp hlocp
    obtain ⟨name, hname, rfl⟩ := h.eq_append hbase hp hlocp
    obtain ⟨name', hname', rfl⟩ := h.symm.eq_append hbase hq hlocq
    constructor
    · intro hsame
      have hnames : name = name' := by simpa using hsame
      exact Naming.disjoint_names h.naming hname (hnames ▸ hname')
    · intro hlinked
      exact h.files p hp q hq
        (Disk.sameFile_of_linked (h.endsInSlash hp) (h.symm.endsInSlash hq) hlocp hlocq hlinked)

/-- The output directory is no place of a file. -/
theorem base_notMem {base : Location} (h : Separate start dir j k)
    (hbase : (start.withDir dir).Base dir base) :
    base ∉ j.written (start.withDir dir) ++ k.written (start.withDir dir) := by
  intro hmem
  obtain ⟨name, hl⟩ : ∃ name, base = base ++ [name] := by
    obtain hmem | hmem := List.mem_append.mp hmem
    · obtain ⟨q, hq, hloc⟩ := Disk.mem_places.mp hmem
      obtain ⟨name, -, hl⟩ := h.eq_append hbase hq hloc
      exact ⟨name, hl⟩
    · obtain ⟨q, hq, hloc⟩ := Disk.mem_places.mp hmem
      obtain ⟨name, -, hl⟩ := h.symm.eq_append hbase hq hloc
      exact ⟨name, hl⟩
  simp at hl

end Separate

/-! ## Disks with the output directory -/

/-- The disks that come about once the output directory has been made. If it could not be made,
nothing more happens. -/
structure Settled (start : Disk) (dir : String) (j k : Job) (d : Disk) : Prop where
  numbered : d.Numbered
  furnished : (start.withDir dir).Furnished
    (j.written (start.withDir dir) ++ k.written (start.withDir dir)) d
  apart : d.Apart (j.seen (start.withDir dir)) (k.written (start.withDir dir))
  apart' : d.Apart (k.seen (start.withDir dir)) (j.written (start.withDir dir))
  still : (start.createDirAll dir).2 ≠ none → d = start.withDir dir

namespace Settled

theorem symm (h : Settled start dir j k d) : Settled start dir k j d where
  numbered := h.numbered
  furnished := h.furnished.mono fun _ hl => List.mem_append.mpr (List.mem_append.mp hl).symm
  apart := h.apart'
  apart' := h.apart
  still := h.still

theorem withDir (h : Separate start dir j k) : Settled start dir j k (start.withDir dir) where
  numbered := h.numbered.withDir dir
  furnished := .refl _ _
  apart := h.apart
  apart' := h.symm.apart
  still _ := rfl

/-- What a comparison does to its own files leaves everything settled. -/
theorem apply (h : Settled start dir j k d) (hmade : (start.createDirAll dir).2 = none)
    (hfits : x.Fits d) (hx : ∀ l, x.place? = some l → l ∈ j.written (start.withDir dir)) :
    Settled start dir j k (x.apply d) where
  numbered := h.numbered.apply hfits
  furnished := h.furnished.apply (fun l hl => List.mem_append_left _ (hx l hl)) hfits
  apart := h.apart.apply h.numbered hfits
  apart' := h.apart'.apply h.numbered hfits
  still hfailed := absurd hmade hfailed

theorem isDirectory (h : Settled start dir j k d) (hmade : (start.createDirAll dir).2 = none) :
    dir = "" ∨ d.isDirectory dir = true := by
  obtain hempty | hdir := (Disk.createDirAll_eq_none_iff start dir).mp hmade
  · exact .inl hempty
  · exact .inr (h.furnished.ways.isDirectory hdir)

/-- Whoever makes the output directory again changes nothing, and fares as the first one did. -/
theorem createDirAll_again (h : Settled start dir j k d) :
    (d.createDirAll dir).1 = d ∧
      ((d.createDirAll dir).2 = none ↔ (start.createDirAll dir).2 = none) := by
  by_cases hmade : (start.createDirAll dir).2 = none
  · rw [Disk.createDirAll_of_isDirectory (h.isDirectory hmade)]
    exact ⟨rfl, iff_of_true rfl hmade⟩
  · rw [h.still hmade]
    exact Disk.createDirAll_again start dir

/-- If the first disk is settled, the output directory was there. -/
theorem withDir_eq (h : Settled start dir j k start) (hmade : (start.createDirAll dir).2 = none) :
    start.withDir dir = start := by
  rw [Disk.withDir, Disk.createDirAll_of_isDirectory (h.isDirectory hmade)]

/-- Disks that look alike to a comparison show the same at its paths. -/
theorem found_eq (h : Settled start dir j k d) (h' : Settled start dir j k d')
    (hsame : d.Alike (j.seen (start.withDir dir)) d') (hp : p ∈ j.input :: j.outputs) :
    d'.found p = d.found p := by
  have hways := h.furnished.ways
  refine Disk.found_congr (fun l => ?_) fun l hl => hsame.entry l (Disk.mem_places.mpr ⟨p, hp, ?_⟩)
  · exact h'.furnished.ways.locateWith_eq_ok.trans hways.locateWith_eq_ok.symm
  · exact hways.locateWith_eq_ok.mp hl

/-- The files of a comparison are found where they were when the output directory was made, or not
found for the same reason. -/
theorem locateWith_eq (hsep : Separate start dir j k) (hmade : (start.createDirAll dir).2 = none)
    (h : Settled start dir j k d) (hp : p ∈ j.outputs) (whole : Bool) :
    d.locateWith whole p = (start.withDir dir).locate p := by
  obtain ⟨base, hbase⟩ := Disk.exists_base ((Disk.createDirAll_eq_none_iff start dir).mp hmade)
  have hlink := hsep.noLinks p (List.mem_append_left _ hp)
  obtain ⟨name, hname, rfl⟩ := hsep.exists_name hp
  exact h.furnished.locateWith_join hbase (hsep.base_notMem hbase) (hsep.plain.1.slash_notMem hname)
    (Naming.moves_of_mem_names hname).1 hlink whole

/-- The output directory has kept its rights. -/
theorem mayChange_eq (hsep : Separate start dir j k) (h : Settled start dir j k d)
    (hp : p ∈ j.outputs) (hloc : (start.withDir dir).locate p = .ok l) :
    d.mayChange l = (start.withDir dir).mayChange l := by
  obtain ⟨base, hbase⟩ := hsep.exists_base hp hloc
  have hlink := hsep.noLinks p (List.mem_append_left _ hp)
  obtain ⟨last, -, rfl⟩ := hsep.eq_append hbase hp hloc
  obtain ⟨name, hname, rfl⟩ := hsep.exists_name hp
  rw [Disk.locate, Disk.locateWith_join hbase (hsep.plain.1.slash_notMem hname)
    (Naming.moves_of_mem_names hname).1 hlink] at hloc
  split at hloc
  · cases hloc
  · split at hloc
    · cases hloc
    · obtain ⟨a, ha⟩ := Disk.exists_directory_of_step hloc
      have ha' := (h.furnished.ways.get base _ (.inl rfl)).mpr ha
      simp [Disk.mayChange, ha, ha']

/-- Disks that look alike to a comparison agree about the paths of its files. -/
theorem sameAt (hsep : Separate start dir j k) (hmade : (start.createDirAll dir).2 = none)
    (h : Settled start dir j k d) (h' : Settled start dir j k d')
    (hsame : d.Alike (j.seen (start.withDir dir)) d') (hp : p ∈ j.outputs) : d.SameAt p d' := by
  have hloc : d.locate p = (start.withDir dir).locate p := locateWith_eq hsep hmade h hp true
  refine ⟨hsame.mask, hsame.now, fun whole => ?_, fun whole => ?_, fun l hl => ?_,
    fun l t hl hget => ?_, fun l hl => ?_⟩
  · rw [locateWith_eq hsep hmade h hp, hloc]
  · rw [locateWith_eq hsep hmade h' hp, hloc]
  · exact hsame.entry l (Disk.mem_places.mpr ⟨p, List.mem_cons_of_mem _ hp, hloc ▸ hl⟩)
  · have hlink := hsep.noLinks p (List.mem_append_left _ hp)
    refine hlink (h.furnished.ways.namesLink ⟨l, t, Disk.statAt_eq_ok_iff.mpr ⟨?_, hget, ?_⟩⟩)
    · rw [Disk.locateName, locateWith_eq hsep hmade h hp, ← hloc, hl]
    · rw [hsep.endsInSlash hp]
      intro hslash
      cases hslash
  · rw [hloc] at hl
    rw [mayChange_eq hsep h' hp hl, mayChange_eq hsep h hp hl]

end Settled

end

end Comparison

end AstCompare
