import AstCompare.Proofs.Leftovers
import AstCompare.Proofs.SeparateRuns
import Mathlib.Logic.Relation

/-!
# What changes on a disk, and what does not

Each of the operations that a comparison is made of changes few places. Making a directory fills
gaps, and only with directories at or above the path. A removal takes away what the path names. A
write changes the file that its path leads to, under all names of that file, or makes one.

Paths are another matter. A path that leads through a gap leads on once the gap has been filled, so
a path that led nowhere may lead to an old file. A path that led to something still does after
directories have been made: nothing on its way was a gap. What it leads to is then told by the place
alone.

## Main definitions

* `Path.AtOrAbove`: a path or one of its parents.
* `Disk.Extends`: the disk with some gaps filled with directories.
* `Disk.MissingFor`: the gaps that making a directory may fill.

## Main results

* `Disk.get?_withDir`: what making a directory changes.
* `Disk.Extends.locateWith`: a path that led to a place leads to it after directories have been
  made.
* `Disk.WrittenThrough.get?_eq_or`: what writing through some paths changes.
* `Disk.WrittenThrough.holds`: what is kept of a file while something is written through other
  paths.
-/

namespace AstCompare

/-- The first path is the second one or one of its parents. -/
def Path.AtOrAbove (q p : String) : Prop :=
  Relation.ReflTransGen (fun a b => Path.parent? a = some b) p q

namespace Disk

variable {d d' d'' : Disk} {l m : Location} {e : Entry} {p q dir : String} {ps qs : List String}
  {c c' : Content} {whole : Bool} {n : Nat}

/-! ## More directories -/

/-- The second disk has what the first one has, and directories where the first one has gaps. -/
structure Extends (d d' : Disk) : Prop where
  cwd : d'.cwd = d.cwd
  kept : ∀ l e, d.get? l = some e → d'.get? l = some e
  grown : ∀ l e, d'.get? l = some e → e.isDirectory = false → d.get? l = some e

namespace Extends

theorem refl (d : Disk) : Extends d d :=
  ⟨rfl, fun _ _ h => h, fun _ _ h _ => h⟩

theorem trans (h : Extends d d') (h' : Extends d' d'') : Extends d d'' :=
  ⟨h'.cwd.trans h.cwd, fun l e he => h'.kept l e (h.kept l e he),
    fun l e he hdir => h.grown l e (h'.grown l e he hdir) hdir⟩

theorem get?_eq_none (h : Extends d d') (hl : d'.get? l = none) : d.get? l = none := by
  cases hget : d.get? l with
  | none => rfl
  | some e =>
    rw [h.kept l e hget] at hl
    cases hl

theorem of_createDir (h : d.createDir p = .ok d') : Extends d d' := by
  obtain ⟨l, -, hgap, rfl⟩ := createDir_cases h
  have hne : ∀ {k e}, d.get? k = some e → k ≠ l := by
    rintro k e hk rfl
    rw [hgap] at hk
    cases hk
  refine ⟨rfl, fun k e hk => (get?_set_of_ne (hne hk)).trans hk, fun k e hk hdir => ?_⟩
  by_cases hkl : k = l
  · rw [hkl, get?_set_self (ne_nil_of_get? hgap)] at hk
    cases hk
    cases hdir
  · rwa [get?_set_of_ne hkl] at hk

/-- The way along a path has no gaps but for its end, where anything may be put. -/
theorem leads (h : Extends d d') {ps : List String} (hl : Leads d whole n l ps m) :
    Leads d' whole n l ps m :=
  hl.of_kept h.cwd (fun _ _ => h.kept _ _) fun _ _ => ⟨fun ht => h.grown _ _ ht rfl, h.kept _ _⟩

/-- **Old ways stay.** A path that led to a place leads to it after directories have been made. -/
theorem locateWith (h : Extends d d') (hl : d.locateWith whole p = .ok l) :
    d'.locateWith whole p = .ok l := by
  obtain ⟨hnul, hempty, hlong, hleads⟩ := locateWith_eq_ok_iff.mp hl
  refine locateWith_eq_ok_iff.mpr ⟨hnul, hempty, hlong, ?_⟩
  rw [h.cwd]
  exact h.leads hleads

theorem of_createDirAllFrom (fuel : Nat) (d : Disk) (p : String) :
    Extends d (createDirAllFrom fuel d p).1 := by
  fun_induction createDirAllFrom fuel d p
  case case1 | case7 | case8 | case9 => exact .refl _
  case case2 hmade => exact .of_createDir hmade
  case case3 hmade ih | case5 hmade _ _ _ ih | case6 hmade _ _ _ ih => rwa [hmade] at ih
  case case4 hmade _ hmade' ih =>
    rw [hmade] at ih
    exact ih.trans (.of_createDir hmade')

theorem withDir (d : Disk) (dir : String) : Extends d (d.withDir dir) :=
  of_createDirAllFrom _ d dir

end Extends

/-- A directory that is made is where its path leads afterwards. -/
theorem locate_of_createDir (h : d.createDir p = .ok d') (hl : d'.get? l ≠ d.get? l) :
    d.get? l = none ∧ d'.locate p = .ok l := by
  obtain ⟨m, hloc, hgap, rfl⟩ := createDir_cases h
  have hlm : l = m := Decidable.byContradiction fun hne => hl (get?_set_of_ne hne)
  obtain ⟨hnul, hempty, hlong, hleads⟩ := locateWith_eq_ok_iff.mp hloc
  subst hlm
  exact ⟨hgap, locateWith_eq_ok_iff.mpr ⟨hnul, hempty, hlong, leads_set_directory hleads hgap⟩⟩

/-- What is made for a directory are directories at or above it, in gaps. -/
theorem get?_createDirAllFrom (fuel : Nat) (d : Disk) (p : String) (l : Location) :
    (createDirAllFrom fuel d p).1.get? l = d.get? l ∨
      (d.get? l = none ∧ ∃ q, Path.AtOrAbove q p ∧
        (createDirAllFrom fuel d p).1.locate q = .ok l) := by
  have hcreate : ∀ {d d' : Disk} {p : String}, d.createDir p = .ok d' → d'.get? l = d.get? l ∨
      (d.get? l = none ∧ ∃ q, Path.AtOrAbove q p ∧ d'.locate q = .ok l) := by
    intro d d' p hmade
    refine or_iff_not_imp_left.mpr fun hl => ?_
    obtain ⟨hgap, hloc⟩ := locate_of_createDir hmade hl
    exact ⟨hgap, p, .refl, hloc⟩
  fun_induction createDirAllFrom fuel d p
  case case1 | case7 | case8 | case9 => exact .inl rfl
  case case2 hmade => exact hcreate hmade
  case case3 hparent _ _ hmade ih | case5 hparent _ hmade _ _ _ ih
    | case6 hparent _ hmade _ _ _ ih =>
    rw [hmade] at ih
    refine ih.imp_right ?_
    rintro ⟨hgap, q, hq, hloc⟩
    exact ⟨hgap, q, .head hparent hq, hloc⟩
  case case4 fuel parent hparent d' hmade d'' hmade' ih =>
    rw [hmade] at ih
    obtain hsame | ⟨hgap, hmore⟩ := hcreate hmade'
    · rw [hsame]
      refine ih.imp_right ?_
      rintro ⟨hgap, q, hq, hloc⟩
      exact ⟨hgap, q, .head hparent hq, (Extends.of_createDir hmade').locateWith hloc⟩
    · have hextends := Extends.of_createDirAllFrom fuel d parent
      rw [hmade] at hextends
      exact .inr ⟨hextends.get?_eq_none hgap, hmore⟩

/-- The place is a gap at or above the directory, so that making the directory may fill it. -/
def MissingFor (d : Disk) (dir : String) (l : Location) : Prop :=
  d.get? l = none ∧ ∃ q, Path.AtOrAbove q dir ∧ (d.withDir dir).locate q = .ok l

/-- **Making a directory.** Nothing changes but for directories at or above it, in gaps. -/
theorem get?_withDir (d : Disk) (dir : String) (l : Location) :
    (d.withDir dir).get? l = d.get? l ∨ d.MissingFor dir l :=
  get?_createDirAllFrom _ d dir l

theorem withDir_of_isDirectory (h : dir = "" ∨ d.isDirectory dir = true) : d.withDir dir = d := by
  rw [withDir, createDirAll_of_isDirectory h]

/-! ## Files that are written -/

/-- Names of one file stay names of one file. -/
theorem Linked.of_write (hl : d.Linked l m) (h : d.write p c = .ok d') : d'.Linked l m := by
  have hnumber : ∀ {k n}, d.numberAt k = some n → d'.numberAt k = some n := by
    intro k n hn
    obtain ⟨c₀, a₀, hget⟩ := numberAt_eq_some hn
    obtain ⟨k', -, -, ⟨hgap, rfl⟩ | ⟨id, c₁, a₁, -, rfl⟩ | ⟨e, -, -, -, rfl⟩⟩ := write_cases h
    · have hne : k ≠ k' := by
        rintro rfl
        rw [hget] at hgap
        cases hgap
      rw [numberAt, get?_addFile_of_ne hne, hget]
      rfl
    · rw [numberAt, get?_changeFile, hget]
      by_cases hid : n = id <;> simp [Entry.rewritten, Entry.number?, hid]
    · exact hn
  obtain ⟨n, hn⟩ := Option.isSome_iff_exists.mp hl.1
  rw [Linked, hnumber hn, hnumber (hl.2.symm.trans hn)]
  exact ⟨rfl, rfl⟩

theorem SameFile.of_write (hs : d.SameFile p q) {r : String} (h : d.write r c = .ok d') :
    d'.SameFile p q := by
  obtain ⟨l, l', id, c₀, c₁, a₀, a₁, hstat, hstat'⟩ := hs
  obtain ⟨hslash, hloc, hget⟩ := locate_of_stat hstat
  obtain ⟨hslash', hloc', hget'⟩ := locate_of_stat hstat'
  have hlinked : d.Linked l l' := by
    rw [Linked, numberAt, numberAt, hget, hget']
    exact ⟨rfl, rfl⟩
  have hsame := SameButFiles.of_write h
  exact sameFile_of_linked hslash hslash' (hsame.locateWith_eq_ok.mpr hloc)
    (hsame.locateWith_eq_ok.mpr hloc') (hlinked.of_write h)

/-- A write changes the place that its path leads to, and the other names of the file there. -/
theorem get?_of_write (h : d.write p c = .ok d') (l : Location) :
    d'.get? l = d.get? l ∨ ∃ m, d'.locate p = .ok m ∧ (l = m ∨ d'.Linked l m) := by
  have hsame := SameButFiles.of_write h
  obtain ⟨m, hloc, -, ⟨hgap, rfl⟩ | ⟨id, c₀, a, hget, rfl⟩ | ⟨e, -, -, -, rfl⟩⟩ := write_cases h
  · by_cases hl : l = m
    · exact .inr ⟨m, hsame.locateWith_eq_ok.mpr hloc, .inl hl⟩
    · exact .inl (get?_addFile_of_ne hl)
  · have hm := get?_changeFile_self (c := c) (a := { a with modified := d.now }) hget
    by_cases hl : d.numberAt l = some id
    · obtain ⟨c₁, a₁, hget₁⟩ := numberAt_eq_some hl
      refine .inr ⟨m, hsame.locateWith_eq_ok.mpr hloc, .inr ?_⟩
      rw [Linked, numberAt, numberAt, hm, get?_changeFile_self hget₁]
      exact ⟨rfl, rfl⟩
    · refine .inl ?_
      rw [get?_changeFile]
      cases hget₁ : d.get? l with
      | none => rfl
      | some e =>
        cases e with
        | file i c₁ a₁ =>
          have hne : i ≠ id := by
            rintro rfl
            exact hl (by rw [numberAt, hget₁]; rfl)
          simp [Entry.rewritten, hne]
        | _ => rfl
  · exact .inl rfl

namespace WrittenThrough

theorem sameButFiles (h : WrittenThrough ps d d') : SameButFiles d d' := by
  induction h with
  | refl => exact .refl d
  | write _ _ hw ih => exact ih.trans (.of_write hw)

/-- **Writing through some paths.** Nothing changes but for the places that these paths lead to, and
the other names of the files there. -/
theorem get?_eq_or (h : WrittenThrough ps d d') (l : Location) :
    d'.get? l = d.get? l ∨ ∃ p ∈ ps, ∃ m, d'.locate p = .ok m ∧ (l = m ∨ d'.Linked l m) := by
  induction h with
  | refl => exact .inl rfl
  | write _ hmem hw ih =>
    obtain hsame | hchanged := get?_of_write hw l
    · rw [hsame]
      refine ih.imp_right ?_
      rintro ⟨p, hp, m, hloc, hm⟩
      exact ⟨p, hp, m, (SameButFiles.of_write hw).locateWith_eq_ok.mpr hloc,
        hm.imp_right (·.of_write hw)⟩
    · exact .inr ⟨_, hmem, hchanged⟩

/-- A file keeps its content if none of the paths is found to lead to it. -/
theorem holds (h : WrittenThrough ps d d') (hp : d.Holds p c)
    (hfile : ∀ q ∈ ps, ¬ d'.SameFile p q) :
    d'.Holds p c := by
  induction h with
  | refl => exact hp
  | write _ hmem hw ih =>
    have hbefore := fun q hq hs => hfile q hq (SameFile.of_write hs hw)
    exact holds_of_write_of_not_sameFile (ih hbefore) (hbefore _ hmem) hw

end WrittenThrough

/-- What was written into a file is still there, if none of the later paths is found to lead to
it. -/
theorem holds_of_write_of_writtenThrough (hw : d.write p c = .ok d') (h : WrittenThrough ps d' d'')
    (hisFile : d''.isFile p = true) (hfile : ∀ q ∈ ps, ¬ d''.SameFile p q) : d''.Holds p c := by
  obtain ⟨l, id, c', a, hstat⟩ := isFile_iff.mp hisFile
  exact h.holds (holds_of_write hw h.sameButFiles ⟨l, id, a, hstat⟩) hfile

end Disk

end AstCompare
