import AstCompare.Proofs.DiskPaths

/-!
# What is written and what is found

A file may have several names, and a path may lead through links. Whether a write through one path
is seen through another one is therefore a question about the file that both lead to, and not about
the two texts.

## Main definitions

* `Disk.Holds`, `Disk.SameFile`: what a path leads to, and whether two paths lead to one file.
* `Disk.Shows`: some file on the disk shows a picture.

## Main results

* `Disk.write_cases`: all that a write can do.
* `Disk.holds_of_write`, `Disk.holds_of_write_sameFile`, `Disk.holds_of_write_of_not_sameFile`: what
  a path leads to after a write through it, or through another one.
* `Content.picture?_ofText`: no text is a picture.
* `Disk.Shows.of_write`, `Disk.Shows.of_createDirAll`, `Disk.Shows.of_remove`: where the pictures on
  a disk come from.
-/

namespace AstCompare

namespace Disk

variable {d d' d'' : Disk} {l m : Location} {e : Entry} {p p' : String} {c c' : Content}

/-! ## Writing -/

/-- The path leads to a file with that content. -/
def Holds (d : Disk) (p : String) (c : Content) : Prop :=
  ∃ l id a, d.stat p = .ok (l, .file id c a)

/-- The two paths lead to one file, by the same name or by different ones. -/
def SameFile (d : Disk) (p p' : String) : Prop :=
  ∃ l l' id c c' a a', d.stat p = .ok (l, .file id c a) ∧ d.stat p' = .ok (l', .file id c' a')

theorem Holds.unique (h : d.Holds p c) (h' : d.Holds p c') : c = c' := by
  obtain ⟨l, id, a, hstat⟩ := h
  obtain ⟨l', id', a', hstat'⟩ := h'
  rw [hstat] at hstat'
  cases hstat'
  rfl

/-- A write makes a file, or changes one under all its names, or is lost in what is no file. -/
theorem write_cases (h : d.write p c = .ok d') :
    ∃ l, d.locate p = .ok l ∧ endsInSlash p = false ∧
      ((d.get? l = none ∧ d' = d.addFile l c (d.fresh 0o666)) ∨
        (∃ id c₀ a, d.get? l = some (.file id c₀ a) ∧
          d' = d.changeFile id c { a with modified := d.now }) ∨
        ∃ e, d.get? l = some e ∧ e.isFile = false ∧ e.isDirectory = false ∧ d' = d) := by
  unfold write at h
  split at h
  · cases h
  · rename_i l hloc
    refine ⟨l, hloc, ?_⟩
    split at h
    · rename_i hget
      split at h
      · cases h
      · rename_i hslash
        split at h
        · cases h
        · cases h
          exact ⟨by simpa using hslash, .inl ⟨hget, rfl⟩⟩
    · cases h
    · rename_i e hdir hget
      split at h
      · cases h
      · rename_i hslash
        refine ⟨by simpa using hslash, .inr ?_⟩
        split at h
        · cases h
        · cases e with
          | directory a => exact absurd rfl (hdir a)
          | file id c₀ a =>
            cases h
            exact .inl ⟨id, c₀, a, hget, rfl⟩
          | link t =>
            cases h
            exact .inr ⟨_, hget, rfl, rfl, rfl⟩
          | device v =>
            cases v with
            | null | zero =>
              cases h
              exact .inr ⟨_, hget, rfl, rfl, rfl⟩
            | full | absent => cases h
          | pipe id a =>
            cases h
            exact .inr ⟨_, hget, rfl, rfl, rfl⟩

theorem get?_addFile_of_ne {a : Attributes} (h : m ≠ l) : (d.addFile l c a).get? m = d.get? m :=
  get?_set_of_ne h

theorem get?_addFile_self {a : Attributes} (h : l ≠ []) :
    (d.addFile l c a).get? l = some (.file d.nextId c a) :=
  get?_set_self h

theorem SameButFiles.of_write (h : d.write p c = .ok d') : SameButFiles d d' := by
  obtain ⟨l, -, -, ⟨hget, rfl⟩ | ⟨id, c₀, a, hget, rfl⟩ | ⟨e, -, -, -, rfl⟩⟩ := write_cases h
  · refine ⟨rfl, fun m e he => ?_⟩
    by_cases hm : m = l
    · subst hm
      rw [get?_addFile_self (ne_nil_of_get? hget), hget]
      constructor
      · rintro ⟨⟩
        cases he
      · rintro ⟨⟩
    · rw [get?_addFile_of_ne hm]
  · refine ⟨rfl, fun m e he => ?_⟩
    rw [get?_changeFile]
    cases hm : d.get? m with
    | none => simp
    | some e' => cases e' <;> grind [Entry.rewritten, Entry.isFile]
  · exact .refl _

theorem SameButFiles.stat_eq_ok (h : SameButFiles d d') (he : e.isFile = false) :
    d'.stat p = .ok (l, e) ↔ d.stat p = .ok (l, e) := by
  rw [stat, stat, statAt_eq_ok_iff, statAt_eq_ok_iff, locate, locate, h.locateWith_eq_ok,
    h.get l e he]

/-- A file that is met at the end of a path is met there again while only files change. -/
theorem SameButFiles.stat_of_get? {id : Nat} {a : Attributes} (h : SameButFiles d d')
    (hp : endsInSlash p = false) (hloc : d.locate p = .ok l)
    (hget : d'.get? l = some (.file id c a)) : d'.stat p = .ok (l, .file id c a) := by
  refine statAt_eq_ok_iff.mpr ⟨h.locateWith_eq_ok.mpr hloc, hget, fun hslash => ?_⟩
  rw [hp] at hslash
  cases hslash

theorem locate_of_stat {id : Nat} {a : Attributes} (h : d.stat p = .ok (l, .file id c a)) :
    endsInSlash p = false ∧ d.locate p = .ok l ∧ d.get? l = some (.file id c a) := by
  obtain ⟨hloc, hget, hslash⟩ := statAt_eq_ok_iff.mp h
  refine ⟨?_, hloc, hget⟩
  cases hp : endsInSlash p with
  | false => rfl
  | true => cases hslash hp

theorem holds_or_of_write (h : d.write p c = .ok d') :
    d'.Holds p c ∨ ∃ l e, e.isFile = false ∧ d'.stat p = .ok (l, e) := by
  have hsame := SameButFiles.of_write h
  obtain ⟨l, hloc, hp, ⟨hget, rfl⟩ | ⟨id, c₀, a, hget, rfl⟩ | ⟨e, hget, he, -, rfl⟩⟩ :=
    write_cases h
  · exact .inl ⟨l, _, _, hsame.stat_of_get? hp hloc (get?_addFile_self (ne_nil_of_get? hget))⟩
  · exact .inl ⟨l, _, _, hsame.stat_of_get? hp hloc (get?_changeFile_self hget)⟩
  · refine .inr ⟨l, e, he, statAt_eq_ok_iff.mpr ⟨hloc, hget, fun hslash => ?_⟩⟩
    rw [hp] at hslash
    cases hslash

/-- What was written is there, if the path is found to lead to a file at all, be it later. -/
theorem holds_of_write (h : d.write p c = .ok d') (hsame : SameButFiles d' d'')
    (hfile : d''.Holds p c') : d'.Holds p c := by
  obtain hholds | ⟨l, e, he, hstat⟩ := holds_or_of_write h
  · exact hholds
  · obtain ⟨l', id, a, hstat'⟩ := hfile
    rw [(hsame.stat_eq_ok he).mpr hstat] at hstat'
    cases hstat'
    cases he

/-- What was written is there, if nothing stood there before. -/
theorem holds_of_write_of_free (hfree : d.hasEntry p = false) (hsame : SameButFiles d d')
    (h : d'.write p c = .ok d'') : d''.Holds p c := by
  obtain hholds | ⟨l, e, he, hstat⟩ := holds_or_of_write h
  · exact hholds
  · have hstat' := ((hsame.trans (.of_write h)).stat_eq_ok he).mp hstat
    exact absurd hstat' (hasEntry_eq_false_iff.mp hfree l e)

/-- **Aliasing.** What was written through one path is there through the other one, if both led to
one file. -/
theorem holds_of_write_sameFile (hfile : d.SameFile p p') (h : d.write p' c = .ok d') :
    d'.Holds p c := by
  have hsame := SameButFiles.of_write h
  obtain ⟨l, l', id, c₀, c₀', a, a', hstat, hstat'⟩ := hfile
  obtain ⟨hp, hloc, hget⟩ := locate_of_stat hstat
  obtain ⟨-, hloc', hget'⟩ := locate_of_stat hstat'
  obtain ⟨m, hlocm, -, hcases⟩ := write_cases h
  rw [hloc'] at hlocm
  cases hlocm
  obtain ⟨hnone, -⟩ | ⟨i, c₁, a₁, hsome, rfl⟩ | ⟨e, hsome, he, -⟩ := hcases
  · rw [hget'] at hnone
    cases hnone
  · rw [hget'] at hsome
    cases hsome
    exact ⟨l, _, _, hsame.stat_of_get? hp hloc (get?_changeFile_self hget)⟩
  · rw [hget'] at hsome
    cases hsome
    cases he

/-- **Frame.** What a path led to is left alone by a write through another path that does not lead
to the same file. -/
theorem holds_of_write_of_not_sameFile (hholds : d.Holds p c) (hfile : ¬ d.SameFile p p')
    (h : d.write p' c' = .ok d') : d'.Holds p c := by
  have hsame := SameButFiles.of_write h
  obtain ⟨l, id, a, hstat⟩ := hholds
  obtain ⟨hp, hloc, hget⟩ := locate_of_stat hstat
  obtain ⟨l', hloc', hp', ⟨hnone, rfl⟩ | ⟨i, c₀, a₀, hsome, rfl⟩ | ⟨e, -, -, -, rfl⟩⟩ :=
    write_cases h
  · have hne : l ≠ l' := by
      rintro rfl
      rw [hget] at hnone
      cases hnone
    exact ⟨l, id, a, hsame.stat_of_get? hp hloc ((get?_addFile_of_ne hne).trans hget)⟩
  · have hne : id ≠ i := by
      rintro rfl
      have hstat' : d.stat p' = .ok (l', .file id c₀ a₀) :=
        (SameButFiles.refl d).stat_of_get? hp' hloc' hsome
      exact hfile ⟨l, l', id, c, c₀, a, a₀, hstat, hstat'⟩
    refine ⟨l, id, a, hsame.stat_of_get? hp hloc ?_⟩
    rw [get?_changeFile, hget]
    simp [Entry.rewritten, hne]
  · exact ⟨l, id, a, hstat⟩

end Disk

/-! ## Pictures -/

/-- A picture file begins with a byte of its own. -/
theorem Png.decode?_of_head_ne {b : ByteArray} (h : b.data[0]? ≠ some 137) : decode? b = none := by
  have hsig : (b.extract 0 8 == signature) = false := by
    refine Bool.eq_false_iff.mpr fun hbeq => h ?_
    have hdata : (b.extract 0 8).data = signature.data :=
      eq_of_beq (show ((b.extract 0 8).data == signature.data) = true from hbeq)
    have hhead : (b.data.extract 0 8)[0]? = some 137 := by
      rw [← ByteArray.data_extract, hdata]
      rfl
    rw [Array.getElem?_extract] at hhead
    split at hhead
    · simpa using hhead
    · cases hhead
  simp [decode?, Body.ofBytes?, bne, hsig]

namespace Content

/-- No text is a picture: that byte begins no character. -/
theorem picture?_ofText (s : String) : (ofText s).picture? = none := by
  refine Png.decode?_of_head_ne fun h => ?_
  obtain ⟨hpos, hhead⟩ := Array.getElem?_eq_some_iff.mp h
  have hfirst : (s.toUTF8.data[0]).IsUTF8FirstByte :=
    s.isValidUTF8.isUTF8FirstByte_getElem_zero hpos
  rw [hhead] at hfirst
  revert hfirst
  decide

theorem text?_ofText (s : String) : (ofText s).text? = some s :=
  dif_pos s.isValidUTF8

theorem picture?_empty : empty.picture? = none :=
  Png.decode?_of_head_ne nofun

theorem picture?_deviceBytes (v : Device) : (bytes (Disk.deviceBytes v)).picture? = none := by
  refine Png.decode?_of_head_ne ?_
  cases v with
  | null | absent => exact nofun
  | zero | full => simp [Disk.deviceBytes, Disk.endless]

end Content

namespace Disk

variable {d d' d'' : Disk} {l m : Location} {e : Entry} {p p' : String} {c c' : Content}
  {q : Picture}

theorem load_eq_ok (h : d.load p = .ok q) : ∃ c, d.Holds p c ∧ c.picture? = some q := by
  unfold load at h
  split at h
  · cases h
  · rename_i c hread
    have hpic : c.picture? = some q := by
      split at h
      · cases h
      · split at h
        · cases h
          assumption
        · cases h
    refine ⟨c, ?_, hpic⟩
    -- nothing but a file is read as a picture
    unfold read at hread
    split at hread
    · cases hread
    · cases hread
    · split at hread
      · cases hread
        exact ⟨_, _, _, by assumption⟩
      · cases hread
    · cases hread
    · cases hread
      rw [Content.picture?_deviceBytes] at hpic
      cases hpic
    · cases hread
      rw [Content.picture?_empty] at hpic
      cases hpic
    · cases hread
      rw [Content.picture?_empty] at hpic
      cases hpic

theorem readText_of_read {s : String} (h : d.read p = .ok (.ofText s)) : d.readText p = .ok s := by
  rw [readText, h]
  simp only [Content.text?_ofText]

theorem save_eq_none (h : d.save p q = (d', none)) : d.write p (.picture q) = .ok d' := by
  unfold save at h
  cases hpix : q.hasPixels with
  | false =>
    rw [hpix] at h
    split at h <;> cases h
  | true =>
    rw [hpix] at h
    split at h
    · cases h
    · cases h
      assumption

/-- Some file shows the picture. -/
def Shows (d : Disk) (q : Picture) : Prop :=
  ∃ l id c a, d.get? l = some (.file id c a) ∧ c.picture? = some q

theorem Holds.shows (h : d.Holds p c) (hc : c.picture? = some q) : d.Shows q := by
  obtain ⟨l, id, a, hstat⟩ := h
  exact ⟨l, id, c, a, (locate_of_stat hstat).2.2, hc⟩

/-- Where only directories have come, or entries have gone, there is no new picture. -/
theorem Shows.of_get? (hget : ∀ l e, e.isFile = true → d'.get? l = some e → d.get? l = some e)
    (h : d'.Shows q) : d.Shows q := by
  obtain ⟨l, id, c, a, hl, hc⟩ := h
  exact ⟨l, id, c, a, hget l _ rfl hl, hc⟩

theorem Shows.of_remove (hr : d.remove p = .ok d') (h : d'.Shows q) : d.Shows q := by
  obtain ⟨l, e, -, -, -, rfl⟩ := remove_cases hr
  exact h.of_get? fun m e _ => get?_of_erase

/-- **Provenance.** A picture on a disk was there before the write, or has been written. -/
theorem Shows.of_write (hw : d.write p c = .ok d') (h : d'.Shows q) :
    d.Shows q ∨ c.picture? = some q := by
  obtain ⟨m, id, c', a, hget, hc⟩ := h
  obtain ⟨l, -, -, ⟨hnone, rfl⟩ | ⟨i, c₀, a₀, -, rfl⟩ | ⟨e, -, -, -, rfl⟩⟩ := write_cases hw
  · by_cases hm : m = l
    · subst hm
      rw [get?_addFile_self (ne_nil_of_get? hnone)] at hget
      cases hget
      exact .inr hc
    · rw [get?_addFile_of_ne hm] at hget
      exact .inl ⟨m, id, c', a, hget, hc⟩
  · rw [get?_changeFile, Option.map_eq_some_iff] at hget
    obtain ⟨e, hget, he⟩ := hget
    cases e with
    | file j c₁ a₁ =>
      by_cases hj : j = i
      · rw [Entry.rewritten, if_pos hj] at he
        cases he
        exact .inr hc
      · rw [Entry.rewritten, if_neg hj] at he
        cases he
        exact .inl ⟨m, id, c', a, hget, hc⟩
    | _ => cases he
  · exact .inl ⟨m, id, c', a, hget, hc⟩

theorem get?_of_createDir (hc : d.createDir p = .ok d') (he : e.isFile = true)
    (h : d'.get? l = some e) : d.get? l = some e := by
  unfold createDir create at hc
  split at hc
  · cases hc
  · rename_i m hloc
    split at hc
    · cases hc
    · rename_i hfree
      have hnone : d.get? m = none := by simpa using hfree
      split at hc
      · cases hc
      · split at hc
        · cases hc
        · cases hc
          by_cases hl : l = m
          · subst hl
            rw [get?_set_self (ne_nil_of_get? hnone)] at h
            cases h
            cases he
          · rwa [get?_set_of_ne hl] at h

theorem get?_of_createDirAllFrom {fuel : Nat} (he : e.isFile = true)
    (h : (d.createDirAllFrom fuel p).1.get? l = some e) : d.get? l = some e := by
  fun_induction createDirAllFrom fuel d p with
  | case1 | case7 | case8 | case9 => exact h
  | case2 _ _ _ _ hmade => exact get?_of_createDir hmade he h
  | case3 _ _ _ _ _ _ _ _ hparent ih
  | case5 _ _ _ _ _ _ _ hparent _ _ _ ih
  | case6 _ _ _ _ _ _ _ hparent _ _ _ ih =>
    rw [hparent] at ih
    exact ih h
  | case4 _ _ _ _ _ _ _ hparent _ hmade ih =>
    rw [hparent] at ih
    exact ih (get?_of_createDir hmade he h)

theorem Shows.of_createDirAll (h : (d.createDirAll p).1.Shows q) : d.Shows q :=
  h.of_get? fun _ _ => get?_of_createDirAllFrom

end Disk

end AstCompare
