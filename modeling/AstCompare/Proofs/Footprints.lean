import AstCompare.Proofs.DiskDirectories

/-!
# What an operation does, and where

An operation on a path touches one place: it puts a content into the file there, or takes the entry
away. Told in this way, without the numbers of files, it is the same on all disks that look alike at
that place. What it touches is the file, under all its names, so somebody who has no name of that
file does not notice.

## Main definitions

* `Effect`: what is done to a disk at one place.
* `Disk.Alike`: disks that look alike at some places, up to the numbers of files.
* `Disk.Apart`: no file has a name in both of two groups of places.
* `Disk.Furnished`: a disk that differs from another one in the files at some places.

## Main results

* `Disk.Alike.apply`: the same effect keeps disks alike.
* `Disk.Alike.of_apart`: an effect elsewhere is not noticed.
* `Disk.Furnished.locateWith_join`: names in a directory lead to the same places on furnished disks.
-/

namespace AstCompare

namespace Entry

/-- The entry without the number of its file. -/
def unnumbered : Entry → Entry
  | file _ c a => file 0 c a
  | e => e

/-- The entry without what is in its file. -/
def blank : Entry → Entry
  | file id _ _ => file id .empty {}
  | e => e

/-- The number of the file. -/
def number? : Entry → Option Nat
  | file id _ _ => some id
  | _ => none

end Entry

namespace Disk

variable {d d' d'' : Disk} {l m : Location} {e : Entry} {p : String} {c : Content} {a : Attributes}
  {S T : List Location}

/-- The number of the file at a place. -/
def numberAt (d : Disk) (l : Location) : Option Nat :=
  (d.get? l).bind Entry.number?

/-- The numbers of all files have been given out. -/
def Numbered (d : Disk) : Prop :=
  ∀ l n, d.numberAt l = some n → n < d.nextId

theorem numberAt_eq_some {n : Nat} (h : d.numberAt l = some n) :
    ∃ c a, d.get? l = some (.file n c a) := by
  unfold numberAt at h
  cases hget : d.get? l with
  | none =>
    rw [hget] at h
    cases h
  | some e =>
    rw [hget] at h
    cases e with
    | file id c a =>
      cases h
      exact ⟨c, a, rfl⟩
    | _ => cases h

end Disk

/-! ## Effects -/

/-- What is done to a disk at one place. -/
inductive Effect where
  | nothing
  /-- The file there gets a content and attributes. It is made if there is none. -/
  | put (l : Location) (c : Content) (a : Attributes)
  | erase (l : Location)

namespace Effect

/-- The disk afterwards. -/
def apply (d : Disk) : Effect → Disk
  | nothing => d
  | put l c a =>
    match d.numberAt l with
    | some id => d.changeFile id c a
    | none => d.addFile l c a
  | erase l => d.erase l

/-- The place that is touched. -/
def place? : Effect → Option Location
  | nothing => none
  | put l _ _ | erase l => some l

/-- Only a gap or a file takes a content, and neither directories nor links are taken away. -/
def Fits (d : Disk) : Effect → Prop
  | nothing => True
  | put l _ _ => d.get? l = none ∨ (d.numberAt l).isSome = true
  | erase l => ∃ e, d.get? l = some e ∧ e.isDirectory = false ∧ e.isLink = false

end Effect

namespace Disk

variable {d d' d'' : Disk} {l m : Location} {e : Entry} {p : String} {c : Content} {a : Attributes}
  {S T : List Location} {x : Effect}

/-! Looking up after an effect. -/

/-- A content that is put somewhere is found under all names of the file. -/
theorem get?_put (hfits : (Effect.put l c a).Fits d) (m : Location) :
    ((Effect.put l c a).apply d).get? m =
      if m = l ∨ ((d.numberAt l).isSome = true ∧ d.numberAt m = d.numberAt l) then
        some (.file ((d.numberAt l).getD d.nextId) c a)
      else d.get? m := by
  cases hl : d.numberAt l with
  | none =>
    have hgap : d.get? l = none := by
      obtain hgap | hfile := hfits
      · exact hgap
      · rw [hl] at hfile
        cases hfile
    have happly : (Effect.put l c a).apply d = d.addFile l c a := by simp only [Effect.apply, hl]
    rw [happly]
    by_cases hm : m = l
    · rw [hm, get?_addFile_self (ne_nil_of_get? hgap)]
      simp
    · rw [get?_addFile_of_ne hm]
      simp [hm]
  | some n =>
    have happly : (Effect.put l c a).apply d = d.changeFile n c a := by simp only [Effect.apply, hl]
    have hsame : m = l → d.numberAt m = some n := by
      rintro rfl
      exact hl
    rw [happly, get?_changeFile]
    cases hm : d.get? m with
    | none =>
      have hnumber : d.numberAt m = none := by rw [numberAt, hm]; rfl
      have hne : m ≠ l := by
        intro hml
        rw [hsame hml] at hnumber
        cases hnumber
      simp [hne, hnumber]
    | some e =>
      have hnumber : d.numberAt m = e.number? := by rw [numberAt, hm]; rfl
      rw [hnumber] at hsame ⊢
      cases e with
      | file i c₀ a₀ =>
        by_cases hi : i = n
        · simp [Entry.rewritten, Entry.number?, hi]
        · simp_all [Entry.rewritten, Entry.number?]
      | _ => simp_all [Entry.rewritten, Entry.number?]

theorem get?_apply_erase (hfits : (Effect.erase l).Fits d) (m : Location) :
    ((Effect.erase l).apply d).get? m = if m = l then none else d.get? m := by
  obtain ⟨e, hget, hdir, -⟩ := hfits
  have hne : l ≠ [] := by
    rintro rfl
    cases hget
    cases hdir
  simp only [Effect.apply]
  split
  · rename_i hm
    rw [hm, get?_erase_self hne]
  · rename_i hm
    exact get?_erase_of_ne hm

theorem numberAt_put (hfits : (Effect.put l c a).Fits d) (m : Location) :
    ((Effect.put l c a).apply d).numberAt m =
      if m = l then some ((d.numberAt l).getD d.nextId) else d.numberAt m := by
  rw [numberAt, get?_put hfits]
  by_cases hm : m = l
  · simp [hm, Entry.number?]
  · by_cases hsame : (d.numberAt l).isSome = true ∧ d.numberAt m = d.numberAt l
    · obtain ⟨n, hn⟩ := Option.isSome_iff_exists.mp hsame.1
      simp [hm, hsame.2, hn, Entry.number?]
    · rw [if_neg (not_or.mpr ⟨hm, hsame⟩), if_neg hm]
      rfl

theorem numberAt_erase (hfits : (Effect.erase l).Fits d) (m : Location) :
    ((Effect.erase l).apply d).numberAt m = if m = l then none else d.numberAt m := by
  rw [numberAt, get?_apply_erase hfits]
  split <;> rfl

/-- A new number is found nowhere, and an old one is shared by the names of the file. -/
theorem Numbered.getD_eq_iff (h : d.Numbered) : some ((d.numberAt l).getD d.nextId) = d.numberAt m ↔
    (d.numberAt l).isSome = true ∧ d.numberAt l = d.numberAt m := by
  cases hl : d.numberAt l with
  | none =>
    have hnew : some d.nextId ≠ d.numberAt m := fun heq => Nat.lt_irrefl _ (h m _ heq.symm)
    simpa using hnew
  | some n => simp

theorem Numbered.apply (h : d.Numbered) (hfits : x.Fits d) : (x.apply d).Numbered := by
  cases x with
  | nothing => exact h
  | put l c a =>
    intro m n hm
    rw [numberAt_put hfits] at hm
    cases hl : d.numberAt l with
    | none =>
      have hnext : ((Effect.put l c a).apply d).nextId = d.nextId + 1 := by
        simp only [Effect.apply, hl]
        rfl
      rw [hl] at hm
      split at hm
      · cases hm
        rw [hnext]
        exact Nat.lt_succ_self _
      · rw [hnext]
        exact Nat.lt_succ_of_lt (h m n hm)
    | some k =>
      have hnext : ((Effect.put l c a).apply d).nextId = d.nextId := by
        simp only [Effect.apply, hl]
        rfl
      rw [hl] at hm
      rw [hnext]
      split at hm
      · cases hm
        exact h l k hl
      · exact h m n hm
  | erase l =>
    intro m n hm
    rw [numberAt_erase hfits] at hm
    split at hm
    · cases hm
    · exact h m n hm

theorem apply_mask (d : Disk) (x : Effect) : (x.apply d).mask = d.mask ∧ (x.apply d).now = d.now ∧
    (x.apply d).cwd = d.cwd := by
  cases x with
  | nothing | erase => exact ⟨rfl, rfl, rfl⟩
  | put l c a => cases hl : d.numberAt l <;> simp [Effect.apply, hl, changeFile, addFile, set]

/-! ## Disks that look alike -/

/-- The disks look alike at these places: up to the numbers of files the same entries are there, and
the same places are names of one file. -/
structure Alike (S : List Location) (d d' : Disk) : Prop where
  mask : d'.mask = d.mask
  now : d'.now = d.now
  entry : ∀ l ∈ S, (d'.get? l).map Entry.unnumbered = (d.get? l).map Entry.unnumbered
  number : ∀ l ∈ S, ∀ m ∈ S, (d'.numberAt l = d'.numberAt m ↔ d.numberAt l = d.numberAt m)

namespace Alike

theorem refl (S : List Location) (d : Disk) : Alike S d d :=
  ⟨rfl, rfl, fun _ _ => rfl, fun _ _ _ _ => Iff.rfl⟩

theorem trans (h : Alike S d d') (h' : Alike S d' d'') : Alike S d d'' :=
  ⟨h'.mask.trans h.mask, h'.now.trans h.now, fun l hl => (h'.entry l hl).trans (h.entry l hl),
    fun l hl m hm => (h'.number l hl m hm).trans (h.number l hl m hm)⟩

theorem isSome_numberAt (h : Alike S d d') (hl : l ∈ S) :
    (d'.numberAt l).isSome = (d.numberAt l).isSome := by
  have hisSome : ∀ d : Disk, (d.numberAt l).isSome =
      (((d.get? l).map Entry.unnumbered).bind Entry.number?).isSome := by
    intro d
    rw [numberAt]
    cases d.get? l with
    | none => rfl
    | some e => cases e <;> rfl
  rw [hisSome, hisSome, h.entry l hl]

theorem get?_eq_none (h : Alike S d d') (hl : l ∈ S) : d'.get? l = none ↔ d.get? l = none := by
  have hentry := h.entry l hl
  cases hd : d.get? l <;> cases hd' : d'.get? l <;> simp_all

theorem fits (h : Alike S d d') (hx : ∀ l, x.place? = some l → l ∈ S) (hfits : x.Fits d) :
    x.Fits d' := by
  cases x with
  | nothing => trivial
  | put l c a =>
    have hl := hx l rfl
    obtain hgap | hfile := hfits
    · exact .inl ((h.get?_eq_none hl).mpr hgap)
    · exact .inr ((h.isSome_numberAt hl).trans hfile)
  | erase l =>
    obtain ⟨e, hget, hdir, hlink⟩ := hfits
    have hentry := h.entry l (hx l rfl)
    rw [hget] at hentry
    cases hget' : d'.get? l with
    | none =>
      rw [hget'] at hentry
      cases hentry
    | some e' =>
      refine ⟨e', hget', ?_⟩
      rw [hget'] at hentry
      cases e <;> cases e' <;> simp_all [Entry.unnumbered, Entry.isDirectory, Entry.isLink]

/-- **The same effect keeps disks alike.** -/
theorem apply (h : Alike S d d') (hd : d.Numbered) (hd' : d'.Numbered)
    (hx : ∀ l, x.place? = some l → l ∈ S) (hfits : x.Fits d) :
    Alike S (x.apply d) (x.apply d') := by
  have hfits' := h.fits hx hfits
  refine ⟨?_, ?_, ?_, ?_⟩
  · rw [(apply_mask d x).1, (apply_mask d' x).1, h.mask]
  · rw [(apply_mask d x).2.1, (apply_mask d' x).2.1, h.now]
  · intro m hm
    cases x with
    | nothing => exact h.entry m hm
    | put l c a =>
      have hl := hx l rfl
      rw [get?_put hfits, get?_put hfits']
      simp only [h.isSome_numberAt hl, h.number m hm l hl]
      split
      · rfl
      · exact h.entry m hm
    | erase l =>
      rw [get?_apply_erase hfits, get?_apply_erase hfits']
      split
      · rfl
      · exact h.entry m hm
  · intro m hm k hk
    cases x with
    | nothing => exact h.number m hm k hk
    | put l c a =>
      have hl := hx l rfl
      have hnew : ∀ k ∈ S, (some ((d'.numberAt l).getD d'.nextId) = d'.numberAt k ↔
          some ((d.numberAt l).getD d.nextId) = d.numberAt k) := by
        intro k hk
        rw [hd'.getD_eq_iff, hd.getD_eq_iff, h.isSome_numberAt hl, h.number l hl k hk]
      rw [numberAt_put hfits, numberAt_put hfits, numberAt_put hfits', numberAt_put hfits']
      by_cases hml : m = l <;> by_cases hkl : k = l
      · simp [hml, hkl]
      · simpa [hml, hkl] using hnew k hk
      · simpa [hml, hkl, eq_comm] using hnew m hm
      · simpa [hml, hkl] using h.number m hm k hk
    | erase l =>
      rw [numberAt_erase hfits, numberAt_erase hfits, numberAt_erase hfits', numberAt_erase hfits']
      have hnone : ∀ k ∈ S, (d'.numberAt k = none ↔ d.numberAt k = none) := by
        intro k hk
        have hsome := h.isSome_numberAt hk
        cases hdk : d.numberAt k <;> cases hdk' : d'.numberAt k <;> simp_all
      by_cases hml : m = l <;> by_cases hkl : k = l
      · simp [hml, hkl]
      · simpa [hml, hkl, eq_comm] using hnone k hk
      · simpa [hml, hkl] using hnone m hm
      · simpa [hml, hkl] using h.number m hm k hk

end Alike

/-! ## Places apart -/

/-- The places are names of one file. -/
def Linked (d : Disk) (l m : Location) : Prop :=
  (d.numberAt l).isSome = true ∧ d.numberAt l = d.numberAt m

/-- No place is in both groups, and no file has names in both. -/
def Apart (S T : List Location) (d : Disk) : Prop :=
  ∀ l ∈ S, ∀ m ∈ T, l ≠ m ∧ ¬ d.Linked l m

theorem Linked.symm (h : d.Linked l m) : d.Linked m l :=
  ⟨h.2 ▸ h.1, h.2.symm⟩

theorem linked_put (hd : d.Numbered) (hfits : (Effect.put l c a).Fits d) {k : Location}
    (hne : k ≠ m) (h : ((Effect.put l c a).apply d).Linked k m) : d.Linked k m := by
  obtain ⟨hsome, hnumber⟩ := h
  rw [numberAt_put hfits] at hsome hnumber
  rw [numberAt_put hfits] at hnumber
  by_cases hk : k = l
  · have hm : m ≠ l := fun hm => hne (hk.trans hm.symm)
    rw [if_pos hk, if_neg hm, hd.getD_eq_iff] at hnumber
    rw [hk]
    exact hnumber
  · rw [if_neg hk] at hsome hnumber
    by_cases hm : m = l
    · rw [if_pos hm, eq_comm, hd.getD_eq_iff] at hnumber
      rw [hm]
      exact Linked.symm hnumber
    · rw [if_neg hm] at hnumber
      exact ⟨hsome, hnumber⟩

theorem linked_erase (hfits : (Effect.erase l).Fits d) {k : Location}
    (h : ((Effect.erase l).apply d).Linked k m) : d.Linked k m := by
  obtain ⟨hsome, hnumber⟩ := h
  rw [numberAt_erase hfits] at hsome hnumber
  rw [numberAt_erase hfits] at hnumber
  by_cases hk : k = l
  · rw [if_pos hk] at hsome
    cases hsome
  · rw [if_neg hk] at hsome hnumber
    by_cases hm : m = l
    · rw [if_pos hm] at hnumber
      rw [hnumber] at hsome
      cases hsome
    · rw [if_neg hm] at hnumber
      exact ⟨hsome, hnumber⟩

/-- New files have new numbers, so nothing that is done brings the groups together. -/
theorem Apart.apply (h : Apart S T d) (hd : d.Numbered) (hfits : x.Fits d) :
    Apart S T (x.apply d) := by
  intro l hl m hm
  obtain ⟨hne, hlinked⟩ := h l hl m hm
  refine ⟨hne, fun hlinked' => hlinked ?_⟩
  cases x with
  | nothing => exact hlinked'
  | put k c a => exact linked_put hd hfits hne hlinked'
  | erase k => exact linked_erase hfits hlinked'

/-- **An effect elsewhere is not noticed.** -/
theorem Alike.of_apart (h : Apart S T d) (hx : ∀ l, x.place? = some l → l ∈ T) (hfits : x.Fits d) :
    Alike S d (x.apply d) := by
  have hne : ∀ m ∈ S, ∀ l, x.place? = some l → m ≠ l := fun m hm l hl => (h m hm l (hx l hl)).1
  refine ⟨(apply_mask d x).1, (apply_mask d x).2.1, fun m hm => ?_, ?_⟩
  · cases x with
    | nothing => rfl
    | put l c a =>
      have hlinked : ¬ ((d.numberAt l).isSome = true ∧ d.numberAt m = d.numberAt l) := fun hs =>
        (h m hm l (hx l rfl)).2 (Linked.symm ⟨hs.1, hs.2.symm⟩)
      rw [get?_put hfits, if_neg (not_or.mpr ⟨hne m hm l rfl, hlinked⟩)]
    | erase l => rw [get?_apply_erase hfits, if_neg (hne m hm l rfl)]
  · have hnumber : ∀ m ∈ S, (x.apply d).numberAt m = d.numberAt m := by
      intro m hm
      cases x with
      | nothing => rfl
      | put l c a => rw [numberAt_put hfits, if_neg (hne m hm l rfl)]
      | erase l => rw [numberAt_erase hfits, if_neg (hne m hm l rfl)]
    intro l hl m hm
    rw [hnumber l hl, hnumber m hm]

/-! ## Furnished disks -/

/-- No effect that fits has to do with directories and links. -/
theorem sameWays_apply (hfits : x.Fits d) : SameWays d (x.apply d) := by
  refine ⟨(apply_mask d x).2.2, fun m e he => ?_⟩
  have hfile : d.get? m = some e → d.numberAt m = none := by
    intro hget
    rw [numberAt, hget]
    cases e with
    | file => simp [Entry.isDirectory, Entry.isLink] at he
    | _ => rfl
  cases x with
  | nothing => rfl
  | put l c a =>
    rw [get?_put hfits]
    split
    · rename_i hplace
      refine iff_of_false ?_ fun hget => ?_
      · rintro ⟨⟩
        simp [Entry.isDirectory, Entry.isLink] at he
      · have hnone := hfile hget
        obtain rfl | ⟨hsome, hsame⟩ := hplace
        · obtain hgap | hsome := hfits
          · rw [hget] at hgap
            cases hgap
          · rw [hnone] at hsome
            cases hsome
        · rw [← hsame, hnone] at hsome
          cases hsome
    · rfl
  | erase l =>
    rw [get?_apply_erase hfits]
    split
    · rename_i hml
      refine iff_of_false (fun hnone => ?_) fun hget => ?_
      · cases hnone
      · obtain ⟨e', hget', hdir, hlink⟩ := hfits
        rw [hml, hget'] at hget
        cases hget
        rw [hdir, hlink] at he
        simp at he
    · rfl

/-- The disk differs from another one in the files at these places. Their other names have changed
with them. -/
structure Furnished (base : Disk) (S : List Location) (d : Disk) : Prop where
  ways : SameWays base d
  outside : ∀ l, l ∉ S → (d.get? l).map Entry.blank = (base.get? l).map Entry.blank

namespace Furnished

variable {base : Disk} {dir name : String}

theorem refl (base : Disk) (S : List Location) : Furnished base S base :=
  ⟨⟨rfl, fun _ _ _ => Iff.rfl⟩, fun _ _ => rfl⟩

theorem mono (h : Furnished base S d) (hT : S ⊆ T) : Furnished base T d :=
  ⟨h.ways, fun l hl => h.outside l fun hS => hl (hT hS)⟩

theorem apply (h : Furnished base S d) (hx : ∀ l, x.place? = some l → l ∈ S) (hfits : x.Fits d) :
    Furnished base S (x.apply d) := by
  refine ⟨h.ways.trans (sameWays_apply hfits), fun m hm => Eq.trans ?_ (h.outside m hm)⟩
  have hne : ∀ l, x.place? = some l → m ≠ l := by
    rintro l hl rfl
    exact hm (hx m hl)
  cases x with
  | nothing => rfl
  | put l c a =>
    rw [get?_put hfits]
    split
    · rename_i hplace
      obtain rfl | ⟨hsome, hsame⟩ := hplace
      · exact absurd rfl (hne m rfl)
      · obtain ⟨n, hn⟩ := Option.isSome_iff_exists.mp hsome
        obtain ⟨c₀, a₀, hget⟩ := numberAt_eq_some (hsame.trans hn)
        rw [hget, hn]
        rfl
    · rfl
  | erase l => rw [get?_apply_erase hfits, if_neg (hne l rfl)]

theorem step_eq (h : Furnished base S d) (hl : l ∉ S) (piece : String) :
    d.step l piece = base.step l piece := by
  have hblank := h.outside l hl
  unfold step
  cases hget : d.get? l with
  | none =>
    rw [hget] at hblank
    rw [Option.map_eq_none_iff.mp hblank.symm]
  | some e =>
    rw [hget] at hblank
    obtain ⟨e', hget', he'⟩ := Option.map_eq_some_iff.mp hblank.symm
    rw [hget']
    cases e <;> cases e' <;> simp_all [Entry.blank]

/-- **Names in a directory.** They lead to the same place, or nowhere for the same reason, whatever
has been done to files that are elsewhere. -/
theorem locateWith_join (h : Furnished base S d) (hbase : base.Base dir l) (hl : l ∉ S)
    (hslash : '/' ∉ name.toList) (hname : Path.moves name = true)
    (hlink : ¬ base.NamesLink (Path.join dir name)) (whole : Bool) :
    d.locateWith whole (Path.join dir name) = base.locate (Path.join dir name) := by
  rw [locate, Disk.locateWith_join (h.ways.base hbase) hslash hname (mt h.ways.namesLink hlink),
    Disk.locateWith_join hbase hslash hname hlink, h.step_eq hl]

end Furnished

end Disk

end AstCompare
