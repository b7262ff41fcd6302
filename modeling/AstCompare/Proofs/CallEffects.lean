import AstCompare.Comparison.Plan
import AstCompare.Proofs.Footprints

/-!
# Calls and their effects

A call at a path looks at what the path leads to, and does something there. On two disks that agree
about the path it gets the same reply and has the same effect, whatever else is different. This
holds of a layout backend as well, if it does not look at the disk for its picture.

## Main definitions

* `Disk.found`: what a path leads to.
* `Disk.SameAt`: disks that agree about a path.
* `Disk.SameDone`: the same has happened on two disks.
* `Layout.Drawing`, `Layout.Backend.DrawsBlindly`: backends that do not look at the disk.

## Main results

* `Host.perform_sameDone`: a call does the same on disks that agree about its path.
-/

namespace AstCompare

namespace Entry

variable {e e' : Entry}

/-- The entry with another number of its file. -/
def numbered (n : Nat) : Entry → Entry
  | file _ c a => file n c a
  | e => e

theorem exists_numbered (h : e'.unnumbered = e.unnumbered) : ∃ n, e' = e.numbered n := by
  cases e' with
  | file n c a => exact ⟨n, by cases e <;> simp_all [unnumbered, numbered]⟩
  | _ => exact ⟨0, by cases e <;> simp_all [unnumbered, numbered]⟩

theorem isDirectory_numbered (n : Nat) (e : Entry) :
    (e.numbered n).isDirectory = e.isDirectory := by
  cases e <;> rfl

theorem attributes_numbered (n : Nat) (e : Entry) : (e.numbered n).attributes = e.attributes := by
  cases e <;> rfl

theorem unnumbered_numbered (n : Nat) (e : Entry) : (e.numbered n).unnumbered = e.unnumbered := by
  cases e <;> rfl

end Entry

namespace Disk

variable {d d' : Disk} {l : Location} {p : String} {c : Content} {x : Effect} {α β : Type}

/-! ## What a path leads to -/

/-- What a path leads to, and where, without the number of the file. -/
def found (d : Disk) (p : String) : Option (Location × Entry) :=
  (d.stat p).toOption.map fun x => (x.1, x.2.unnumbered)

/-- Places with the same entries but for the numbers of files. -/
theorem get?_cases (hentry : (d'.get? l).map Entry.unnumbered = (d.get? l).map Entry.unnumbered) :
    (d.get? l = none ∧ d'.get? l = none) ∨
      ∃ e n, d.get? l = some e ∧ d'.get? l = some (e.numbered n) := by
  cases hget : d.get? l with
  | none =>
    rw [hget] at hentry
    exact .inl ⟨rfl, Option.map_eq_none_iff.mp hentry⟩
  | some e =>
    rw [hget] at hentry
    obtain ⟨e', hget', he'⟩ := Option.map_eq_some_iff.mp hentry
    obtain ⟨n, rfl⟩ := Entry.exists_numbered he'
    exact .inr ⟨e, n, rfl, hget'⟩

/-- Places that are looked at in the same way are found to be the same. -/
theorem exists_statAt
    (hentry : (d'.get? l).map Entry.unnumbered = (d.get? l).map Entry.unnumbered) :
    (∃ x, d.statAt p (.ok l) = .error x ∧ d'.statAt p (.ok l) = .error x) ∨
      ∃ e n, d.statAt p (.ok l) = .ok (l, e) ∧ d'.statAt p (.ok l) = .ok (l, e.numbered n) := by
  obtain ⟨hget, hget'⟩ | ⟨e, n, hget, hget'⟩ := get?_cases hentry
  · simp only [statAt, hget, hget']
    exact .inl ⟨_, rfl, rfl⟩
  · simp only [statAt, hget, hget', Entry.isDirectory_numbered]
    split
    · exact .inl ⟨_, rfl, rfl⟩
    · exact .inr ⟨e, n, rfl, rfl⟩

theorem found_congr (hplace : ∀ l, d'.locate p = .ok l ↔ d.locate p = .ok l)
    (hentry : ∀ l, d.locate p = .ok l →
      (d'.get? l).map Entry.unnumbered = (d.get? l).map Entry.unnumbered) :
    d'.found p = d.found p := by
  unfold found stat
  cases hl : d.locate p with
  | error x =>
    cases hl' : d'.locate p with
    | error x' => rfl
    | ok l =>
      rw [(hplace l).mp hl'] at hl
      cases hl
  | ok l =>
    rw [(hplace l).mpr hl]
    obtain ⟨x, hs, hs'⟩ | ⟨e, n, hs, hs'⟩ := exists_statAt (p := p) (hentry l hl)
    · rw [hs, hs']
    · rw [hs, hs']
      simp [Except.toOption, Entry.unnumbered_numbered]

theorem isFile_eq (d : Disk) (p : String) : d.isFile p = (d.found p).any fun x => x.2.isFile := by
  unfold isFile found
  cases d.stat p with
  | error x => rfl
  | ok x =>
    obtain ⟨l, e⟩ := x
    cases e <;> rfl

theorem read_of_stat {l' : Location} {e : Entry} {n : Nat} (hs : d.stat p = .ok (l, e))
    (hs' : d'.stat p = .ok (l', e.numbered n)) : d'.read p = d.read p := by
  rw [read, read, hs, hs']
  cases e with
  | device v => cases v <;> rfl
  | _ => rfl

/-- What is read depends on what is found. Why nothing can be read may depend on more. -/
theorem toOption_readText (h : d'.found p = d.found p) :
    (d'.readText p).toOption = (d.readText p).toOption := by
  unfold found at h
  cases hs : d.stat p with
  | error x =>
    cases hs' : d'.stat p with
    | error x' => simp [readText, read, hs, hs', Except.toOption]
    | ok y => simp [hs, hs', Except.toOption] at h
  | ok y =>
    cases hs' : d'.stat p with
    | error x' => simp [hs, hs', Except.toOption] at h
    | ok y' =>
      obtain ⟨l, e⟩ := y
      obtain ⟨l', e'⟩ := y'
      simp only [hs, hs', Except.toOption, Option.map_some, Option.some.injEq, Prod.mk.injEq] at h
      obtain ⟨n, rfl⟩ := Entry.exists_numbered h.2
      rw [readText, readText, read_of_stat hs hs']

/-- What comes of writing to an entry that may be written. -/
def overwrite (d : Disk) (c : Content) : Entry → Except DiskError Disk
  | .file id _ a => .ok (d.changeFile id c { a with modified := d.now })
  | .device .full => .error .noSpace
  | .device .absent => .error .noDevice
  | _ => .ok d

theorem write_of_get? {e : Entry} (hl : d.locate p = .ok l) (hget : d.get? l = some e) :
    d.write p c =
      if e.isDirectory = true then .error .isDirectory
      else if endsInSlash p = true then .error .notDirectory
      else if e.attributes.allows .write = false then .error .refused
      else d.overwrite c e := by
  cases e with
  | device v => cases v <;> simp [write, hl, hget, overwrite, Entry.isDirectory]
  | _ => simp [write, hl, hget, overwrite, Entry.isDirectory]

/-! ## Disks that agree about a path -/

/-- The path leads to the same place on both disks, or nowhere for the same reason. No link is at
its end, and up to the number of the file the same entry is there. -/
structure SameAt (p : String) (d d' : Disk) : Prop where
  mask : d'.mask = d.mask
  now : d'.now = d.now
  place : ∀ whole, d.locateWith whole p = d.locate p
  place' : ∀ whole, d'.locateWith whole p = d.locate p
  entry : ∀ l, d.locate p = .ok l →
    (d'.get? l).map Entry.unnumbered = (d.get? l).map Entry.unnumbered
  noLink : ∀ l t, d.locate p = .ok l → d.get? l ≠ some (.link t)
  mayChange : ∀ l, d.locate p = .ok l → d'.mayChange l = d.mayChange l

/-- The same has happened on both disks: the replies are the same, and one effect was had where the
path leads. -/
def SameDone (p : String) (d d' : Disk) (y y' : α × Disk) : Prop :=
  ∃ x : Effect, x.Fits d ∧ x.Fits d' ∧ (∀ l, x.place? = some l → d.locate p = .ok l) ∧
    y.2 = x.apply d ∧ y' = (y.1, x.apply d')

theorem sameDone_nothing (p : String) (d d' : Disk) (r : α) : SameDone p d d' (r, d) (r, d') :=
  ⟨.nothing, trivial, trivial, nofun, rfl, rfl⟩

theorem SameDone.map {y y' : α × Disk} (h : SameDone p d d' y y') (f : α → β) :
    SameDone p d d' (f y.1, y.2) (f y'.1, y'.2) := by
  obtain ⟨x, hfits, hfits', hplace, hy, rfl⟩ := h
  exact ⟨x, hfits, hfits', hplace, hy, rfl⟩

namespace SameAt

theorem locate_eq (h : SameAt p d d') : d'.locate p = d.locate p :=
  h.place' true

theorem stat_cases (h : SameAt p d d') :
    (∃ x, d.stat p = .error x ∧ d'.stat p = .error x) ∨
      ∃ l e n, d.stat p = .ok (l, e) ∧ d'.stat p = .ok (l, e.numbered n) := by
  rw [stat, stat, h.locate_eq]
  cases hl : d.locate p with
  | error x => exact .inl ⟨x, rfl, rfl⟩
  | ok l =>
    obtain hfailed | ⟨e, n, hfound⟩ := exists_statAt (p := p) (h.entry l hl)
    · exact .inl hfailed
    · exact .inr ⟨l, e, n, hfound⟩

theorem read_eq (h : SameAt p d d') : d'.read p = d.read p := by
  obtain ⟨x, hs, hs'⟩ | ⟨l, e, n, hs, hs'⟩ := h.stat_cases
  · rw [read, read, hs, hs']
  · exact read_of_stat hs hs'

theorem load_eq (h : SameAt p d d') : d'.load p = d.load p := by
  rw [load, load, h.read_eq]

theorem hasEntry_eq (h : SameAt p d d') : d'.hasEntry p = d.hasEntry p := by
  obtain ⟨x, hs, hs'⟩ | ⟨l, e, n, hs, hs'⟩ := h.stat_cases <;> rw [hasEntry, hasEntry, hs, hs']

/-- A name that is no link names what it leads to. -/
theorem lstat_eq (h : SameAt p d d') : d.lstat p = d.stat p ∧ d'.lstat p = d'.stat p := by
  rw [lstat, lstat, locateName, locateName, h.place, h.place', stat, stat, h.locate_eq]
  exact ⟨rfl, rfl⟩

/-- The same comes of overwriting entries that differ in the number of the file. -/
theorem overwrite_sameDone {e : Entry} {n : Nat} (h : SameAt p d d') (hl : d.locate p = .ok l)
    (hget : d.get? l = some e) (hget' : d'.get? l = some (e.numbered n)) (c : Content) :
    SameDone p d d' (Host.settle d (d.overwrite c e))
      (Host.settle d' (d'.overwrite c (e.numbered n))) := by
  cases e with
  | file id c₀ a =>
    have hnumber : d.numberAt l = some id ∧ d'.numberAt l = some n := by
      simp [numberAt, hget, hget', Entry.number?, Entry.numbered]
    refine ⟨.put l c { a with modified := d.now }, .inr ?_, .inr ?_, ?_, ?_, ?_⟩
    · rw [hnumber.1]
      rfl
    · rw [hnumber.2]
      rfl
    · rintro k ⟨⟩
      exact hl
    · simp [Effect.apply, Host.settle, overwrite, hnumber.1]
    · simp [Effect.apply, Host.settle, overwrite, Entry.numbered, hnumber.2, h.now]
  | device v => cases v <;> exact sameDone_nothing p d d' _
  | directory | link | pipe => exact sameDone_nothing p d d' _

theorem write_sameDone (h : SameAt p d d') (c : Content) :
    SameDone p d d' (Host.settle d (d.write p c)) (Host.settle d' (d'.write p c)) := by
  have hl' := h.locate_eq
  cases hl : d.locate p with
  | error x =>
    rw [hl] at hl'
    simp only [write, hl, hl']
    exact sameDone_nothing p d d' _
  | ok l =>
    rw [hl] at hl'
    obtain ⟨hget, hget'⟩ | ⟨e, n, hget, hget'⟩ := get?_cases (h.entry l hl)
    · have hfresh : d'.fresh 0o666 = d.fresh 0o666 := by rw [fresh, fresh, h.mask, h.now]
      have hnumber : d.numberAt l = none ∧ d'.numberAt l = none := by
        simp [numberAt, hget, hget']
      simp only [write, hl, hl', hget, hget', h.mayChange l hl, hfresh]
      split
      · exact sameDone_nothing p d d' _
      · split
        · exact sameDone_nothing p d d' _
        · refine ⟨.put l c (d.fresh 0o666), .inl hget, .inl hget', ?_, ?_, ?_⟩
          · rintro k ⟨⟩
            exact hl
          · simp [Effect.apply, Host.settle, hnumber.1]
          · simp [Effect.apply, Host.settle, hnumber.2]
    · rw [write_of_get? hl hget, write_of_get? hl' hget', Entry.isDirectory_numbered,
        Entry.attributes_numbered]
      split
      · exact sameDone_nothing p d d' _
      · split
        · exact sameDone_nothing p d d' _
        · split
          · exact sameDone_nothing p d d' _
          · exact h.overwrite_sameDone hl hget hget' c

theorem remove_sameDone (h : SameAt p d d') :
    SameDone p d d' (Host.settle d (d.remove p)) (Host.settle d' (d'.remove p)) := by
  unfold remove
  rw [h.lstat_eq.1, h.lstat_eq.2]
  obtain ⟨x, hs, hs'⟩ | ⟨l, e, n, hs, hs'⟩ := h.stat_cases
  · rw [hs, hs']
    exact sameDone_nothing p d d' _
  · obtain ⟨hl, hget, -⟩ := statAt_eq_ok_iff.mp hs
    obtain ⟨-, hget', -⟩ := statAt_eq_ok_iff.mp hs'
    -- what is neither a directory nor a link is taken away
    have herase : e.isDirectory = false → e.isLink = false →
        SameDone p d d' (Host.settle d (if d.mayChange l then .ok (d.erase l) else .error .refused))
          (Host.settle d' (if d'.mayChange l then .ok (d'.erase l) else .error .refused)) := by
      intro hdir hlink
      rw [h.mayChange l hl]
      split
      · refine ⟨.erase l, ⟨e, hget, hdir, hlink⟩, ⟨_, hget', ?_, ?_⟩, ?_, rfl, rfl⟩
        · rwa [Entry.isDirectory_numbered]
        · cases e <;> first | rfl | cases hlink
        · rintro _ ⟨⟩
          exact hl
      · exact sameDone_nothing p d d' _
    rw [hs, hs']
    cases e with
    | directory a => exact sameDone_nothing p d d' _
    | link t => exact absurd hget (h.noLink l t hl)
    | file | device | pipe => exact herase rfl rfl

/-- What has been done at the place of a path is seen in the same way through the path. -/
theorem isFile_apply (h : SameAt p d d') (hfits : x.Fits d) (hfits' : x.Fits d')
    (hplace : ∀ l, x.place? = some l → d.locate p = .ok l) :
    (x.apply d').isFile p = (x.apply d).isFile p := by
  have hloc : ∀ l, (x.apply d).locate p = .ok l ↔ d.locate p = .ok l := fun l =>
    (sameWays_apply hfits).locateWith_eq_ok
  have hloc' : ∀ l, (x.apply d').locate p = .ok l ↔ d.locate p = .ok l := fun l => by
    rw [← h.locate_eq]
    exact (sameWays_apply hfits').locateWith_eq_ok
  rw [isFile_eq, isFile_eq, found_congr (fun l => (hloc' l).trans (hloc l).symm)]
  intro l hl
  rw [hloc] at hl
  have hsame : ∀ k, x.place? = some k → l = k := by
    intro k hk
    have hkl := hplace k hk
    rw [hl] at hkl
    cases hkl
    rfl
  cases x with
  | nothing => exact h.entry l hl
  | put k c a => simp [get?_put hfits, get?_put hfits', hsame k rfl, Entry.unnumbered]
  | erase k => simp [get?_apply_erase hfits, get?_apply_erase hfits', hsame k rfl]

end SameAt

end Disk

/-! ## Backends -/

namespace Layout

/-- How a backend works that does not look at the disk for its picture. -/
structure Drawing where
  /-- What is put at the requested path, given the earlier requests. -/
  image : List Request → Request → Option Content
  /-- The answer. It may depend on whether the file could be written, and on whether there is
  one. -/
  answer : List Request → Request → Except DiskError Unit → Bool → Except Failure Unit

/-- Answers a request. -/
def Drawing.render (b : Drawing) (earlier : List Request) (r : Request) (d : Disk) :
    Except Failure Unit × Disk :=
  let written :=
    match b.image earlier r with
    | some c => Host.settle d (d.write r.output c)
    | none => (.ok (), d)
  (b.answer earlier r written.1 (written.2.isFile r.output), written.2)

/-- The backend writes nothing but the requested file, and what is in it depends on the requests
alone. -/
def Backend.DrawsBlindly (b : Backend) : Prop :=
  ∃ x : Drawing, b.render = x.render

theorem Drawing.render_sameDone {r : Request} {d d' : Disk} (b : Drawing) (earlier : List Request)
    (h : d.SameAt r.output d') :
    Disk.SameDone r.output d d' (b.render earlier r d) (b.render earlier r d') := by
  unfold Drawing.render
  have hwritten : ∀ image : Option Content, Disk.SameDone r.output d d'
      (match image with
        | some c => Host.settle d (d.write r.output c)
        | none => ((.ok () : Except DiskError Unit), d))
      (match image with
        | some c => Host.settle d' (d'.write r.output c)
        | none => ((.ok () : Except DiskError Unit), d')) := by
    intro image
    cases image with
    | none => exact Disk.sameDone_nothing _ _ _ _
    | some c => exact h.write_sameDone c
  obtain ⟨x, hfits, hfits', hplace, hy, hy'⟩ := hwritten (b.image earlier r)
  refine ⟨x, hfits, hfits', hplace, hy, ?_⟩
  rw [hy']
  simp only [hy, h.isFile_apply hfits hfits' hplace]

end Layout

/-! ## Calls -/

/-- The path of the picture or graph text that a call is about. -/
def Call.artifact? : Call → Option String
  | readText _ | createDirAll _ => none
  | hasEntry p | remove p | writeText p _ | load p | save p _ => some p
  | render r => some r.output

namespace Host

variable {h : Host} {c : Call} {p : String} {d d' : Disk}

/-- The reply to a save, from what came of the write. -/
def saveReply (q : Picture) : Except DiskError Unit → Except String Unit
  | .ok _ => if q.hasPixels then .ok () else .error "a picture needs at least one pixel"
  | .error e => .error e.message

theorem perform_save_eq (h : Host) (past : List Call) (p : String) (q : Picture) (d : Disk) :
    h.perform past (.save p q) d =
      (saveReply q (settle d (d.write p (if q.hasPixels then .picture q else .empty))).1,
        (settle d (d.write p (if q.hasPixels then .picture q else .empty))).2) := by
  simp only [perform_save, Disk.save]
  cases d.write p (if q.hasPixels then .picture q else .empty) with
  | error e => rfl
  | ok d' =>
    simp only [saveReply, settle]
    cases q.hasPixels <;> rfl

/-- **Calls do the same on disks that agree about their path.** -/
theorem perform_sameDone (hb : h.backend.DrawsBlindly) (past : List Call)
    (hc : c.artifact? = some p) (hsame : d.SameAt p d') :
    Disk.SameDone p d d' (h.perform past c d) (h.perform past c d') := by
  cases c with
  | readText | createDirAll => cases hc
  | hasEntry q =>
    cases hc
    have hreply : h.perform past (.hasEntry p) d' = (d.hasEntry p, d') := by
      rw [← hsame.hasEntry_eq]
      rfl
    rw [hreply]
    exact Disk.sameDone_nothing p d d' _
  | remove q =>
    cases hc
    rw [perform_remove, perform_remove]
    split
    · exact Disk.sameDone_nothing p d d' _
    · exact hsame.remove_sameDone
  | writeText q s =>
    cases hc
    rw [perform_writeText, perform_writeText]
    split
    · exact Disk.sameDone_nothing p d d' _
    · exact hsame.write_sameDone _
  | render r =>
    cases hc
    obtain ⟨b, hb⟩ := hb
    have hperform : ∀ d, h.perform past (.render r) d =
        b.render (past.filterMap Call.request?) r d := fun d =>
      congrFun (congrFun (congrFun hb _) r) d
    rw [hperform, hperform]
    exact b.render_sameDone _ hsame
  | load q =>
    cases hc
    have hreply : h.perform past (.load p) d' = (d.load p, d') := by
      rw [← hsame.load_eq]
      rfl
    rw [hreply]
    exact Disk.sameDone_nothing p d d' _
  | save q picture =>
    cases hc
    rw [perform_save_eq, perform_save_eq]
    exact (hsame.write_sameDone _).map (saveReply picture)

end Host

end AstCompare
