import AstCompare.Disk.Files

/-!
# The meaning of a path

Looking up after a change of a disk is settled entry by entry. Then the walk along a path is told
once more as a relation, without fuel and without errors: which pieces lead from where to where.
What a path means depends on directories and links alone, so two disks that differ in their files
only give every path the same meaning.

## Main definitions

* `Disk.Leads`: where the pieces of a path lead.
* `Disk.SameWays`, `Disk.SameButFiles`: disks with the same directories and links, and disks that
  differ in their files only.

## Main results

* `Disk.locateWith_eq_ok_iff`: the relation is the walk.
* `Disk.SameWays.locateWith_eq_ok`: directories and links make the meaning of a path.
* `Disk.hasEntry_of_remove`: a name that was removed leads nowhere.
-/

namespace AstCompare

namespace Disk

variable {d d' d'' : Disk} {l m : Location} {e : Entry} {p p' : String} {c c' : Content}

/-! ## Looking up after a change -/

theorem lookup_without {entries : List (Location × Entry)} (h : m ≠ l) :
    (entries.filter fun x => x.1 != l).lookup m = entries.lookup m := by
  induction entries with
  | nil => rfl
  | cons x rest ih =>
    obtain ⟨k, e⟩ := x
    rw [List.filter_cons]
    split
    · rw [List.lookup_cons, List.lookup_cons, ih]
    · rename_i hgone
      have hk : k = l := by simpa using hgone
      have hmk : (m == k) = false := by simpa [hk] using h
      rw [List.lookup_cons, hmk, ih]

theorem get?_set_of_ne (h : m ≠ l) : (d.set l e).get? m = d.get? m := by
  have hml : (m == l) = false := beq_eq_false_iff_ne.mpr h
  simp [get?, set, List.lookup_cons, hml, lookup_without h]

theorem get?_set_self (h : l ≠ []) : (d.set l e).get? l = some e := by
  simp [get?, set, h]

theorem get?_erase_of_ne (h : m ≠ l) : (d.erase l).get? m = d.get? m := by
  simp [get?, erase, lookup_without h]

theorem get?_erase_self (h : l ≠ []) : (d.erase l).get? l = none := by
  have hgone : (d.entries.filter fun x => x.1 != l).lookup l = none := by
    rw [List.lookup_eq_none_iff]
    intro x hx
    exact bne_iff_ne.mpr (bne_iff_ne.mp (List.mem_filter.mp hx).2).symm
  simp [get?, erase, h, hgone]

theorem ne_nil_of_get? (h : d.get? l = none) : l ≠ [] := by
  rintro rfl
  cases h

end Disk

/-- The entry once the file of a number has been changed. -/
def Entry.rewritten (id : Nat) (c : Content) (a : Attributes) : Entry → Entry
  | file i c₀ a₀ => if i = id then file id c a else file i c₀ a₀
  | e => e

namespace Disk

variable {d d' d'' : Disk} {l m : Location} {e : Entry} {p p' : String} {c c' : Content}

theorem lookup_map_entry (f : Entry → Entry) (entries : List (Location × Entry)) (l : Location) :
    (entries.map fun x => (x.1, f x.2)).lookup l = (entries.lookup l).map f := by
  induction entries with
  | nil => rfl
  | cons x rest ih =>
    obtain ⟨k, e⟩ := x
    cases hk : l == k <;> simp [List.lookup_cons, hk, ih]

theorem get?_changeFile (d : Disk) (id : Nat) (c : Content) (a : Attributes) (l : Location) :
    (d.changeFile id c a).get? l = (d.get? l).map (Entry.rewritten id c a) := by
  have hentries : (d.changeFile id c a).entries =
      d.entries.map fun x => (x.1, x.2.rewritten id c a) := by
    refine List.map_congr_left fun x _ => ?_
    obtain ⟨k, e⟩ := x
    cases e with
    | file i c₀ a₀ =>
      by_cases hi : i = id <;> simp [Entry.rewritten, hi]
    | _ => rfl
  by_cases hl : l = []
  · subst hl
    rfl
  · simp [get?, hl, hentries, lookup_map_entry]

theorem get?_changeFile_self {id : Nat} {c₀ : Content} {a a₀ : Attributes}
    (h : d.get? l = some (.file id c₀ a₀)) :
    (d.changeFile id c a).get? l = some (.file id c a) := by
  rw [get?_changeFile, h]
  simp [Entry.rewritten]

theorem get?_of_erase (h : (d.erase l).get? m = some e) : d.get? m = some e := by
  by_cases hm : m = l
  · subst hm
    by_cases hnil : m = []
    · subst hnil
      exact h
    · rw [get?_erase_self hnil] at h
      cases h
  · rwa [get?_erase_of_ne hm] at h

/-! ## The meaning of a path -/

theorem exists_directory_of_step {piece : String} (h : d.step l piece = .ok m) :
    ∃ a, d.get? l = some (.directory a) := by
  unfold step at h
  split at h
  · cases h
  · exact ⟨_, by assumption⟩
  · cases h

/-- A step looks at nothing but the directory from which it goes. -/
theorem step_of_directory {piece : String}
    (hd : ∀ a, d.get? l = some (.directory a) → d'.get? l = some (.directory a))
    (h : d.step l piece = .ok m) : d'.step l piece = .ok m := by
  obtain ⟨a, ha⟩ := exists_directory_of_step h
  rw [← h, step, step, hd a ha, ha]

/-- Where a path goes on behind a link, and what is left of it. -/
def behindLink (d : Disk) (l : Location) (rest : List String) : LinkTarget → Location × List String
  | .path p => (if Path.isAbsolute p then [] else l, Path.pieces p ++ rest)
  | .workingDirectory => (d.cwd, rest)

/-- The pieces lead from the first location to the second one, through at most so many links. -/
inductive Leads (d : Disk) (whole : Bool) : Nat → Location → List String → Location → Prop where
  | here {n : Nat} {l : Location} : Leads d whole n l [] l
  | through {n : Nat} {l l' m : Location} {piece : String} {rest : List String}
      (step : d.step l piece = .ok l') (noLink : ∀ t, d.get? l' ≠ some (.link t))
      (on : Leads d whole n l' rest m) : Leads d whole n l (piece :: rest) m
  | atLink {n : Nat} {l l' : Location} {piece : String} {t : LinkTarget}
      (step : d.step l piece = .ok l') (link : d.get? l' = some (.link t))
      (notWhole : whole = false) : Leads d whole n l [piece] l'
  | follow {n : Nat} {l l' m : Location} {piece : String} {rest : List String} {t : LinkTarget}
      (step : d.step l piece = .ok l') (link : d.get? l' = some (.link t))
      (goesOn : rest ≠ [] ∨ whole = true)
      (on : Leads d whole n (d.behindLink l rest t).1 (d.behindLink l rest t).2 m) :
      Leads d whole (n + 1) l (piece :: rest) m

theorem leads_of_walkWith {whole : Bool} {n : Nat} {ps : List String}
    {onLink : Location → List String → Except DiskError Location}
    (hlink : ∀ l ps m, onLink l ps = .ok m → ∃ k, n = k + 1 ∧ Leads d whole k l ps m)
    (h : d.walkWith whole onLink l ps = .ok m) : Leads d whole n l ps m := by
  induction ps generalizing l with
  | nil =>
    cases h
    exact .here
  | cons piece rest ih =>
    rw [walkWith] at h
    split at h
    · cases h
    · rename_i l' hstep
      split at h
      · rename_i t hget
        split at h
        · rename_i hend
          obtain ⟨hrest, hwhole⟩ : rest = [] ∧ whole = false := by simpa using hend
          cases h
          subst hrest
          exact .atLink hstep hget hwhole
        · rename_i hend
          have hgoes : rest ≠ [] ∨ whole = true := by
            by_cases hrest : rest = []
            · exact .inr (by simpa [hrest] using hend)
            · exact .inl hrest
          cases t with
          | path p =>
            obtain ⟨k, rfl, hk⟩ := hlink _ _ _ h
            exact .follow hstep hget hgoes hk
          | workingDirectory =>
            obtain ⟨k, rfl, hk⟩ := hlink _ _ _ h
            exact .follow hstep hget hgoes hk
      · rename_i hget
        exact .through hstep (fun t ht => hget t ht) (ih h)

theorem leads_of_walk {whole : Bool} {n : Nat} {ps : List String}
    (h : d.walk whole n l ps = .ok m) : Leads d whole n l ps m := by
  induction n generalizing l ps m with
  | zero => exact leads_of_walkWith (fun l ps m hm => by cases hm) h
  | succ n ih => exact leads_of_walkWith (fun l ps m hm => ⟨n, rfl, ih hm⟩) h

theorem walkWith_cons_of_ne_link {whole : Bool} {piece : String} {rest : List String}
    {l' : Location} {onLink : Location → List String → Except DiskError Location}
    (hstep : d.step l piece = .ok l') (hlink : ∀ t, d.get? l' ≠ some (.link t)) :
    d.walkWith whole onLink l (piece :: rest) = d.walkWith whole onLink l' rest := by
  rw [walkWith, hstep]
  split
  · rename_i hstep'
    cases hstep'
  · rename_i x hstep'
    cases hstep'
    split
    · rename_i t ht
      exact absurd ht (hlink t)
    · rfl

theorem walk_of_leads {whole : Bool} {n : Nat} {ps : List String} (h : Leads d whole n l ps m) :
    d.walk whole n l ps = .ok m := by
  induction h with
  | @here n => cases n <;> rfl
  | @through n _ _ _ _ _ hstep hlink _ ih =>
    cases n <;> (rw [walk] at ih ⊢; rw [walkWith_cons_of_ne_link hstep hlink, ih])
  | @atLink n _ _ _ _ hstep hlink hwhole =>
    cases n <;> simp [walk, walkWith, hstep, hlink, hwhole]
  | @follow _ _ _ _ _ rest t hstep hlink hgoes _ ih =>
    have hend : (rest.isEmpty && !whole) = false := by
      obtain h | h := hgoes <;> simp [h]
    cases t <;> simpa [walk, walkWith, hstep, hlink, hend, behindLink] using ih

/-- The location that a path means, in terms of the relation. -/
theorem locateWith_eq_ok_iff {whole : Bool} :
    d.locateWith whole p = .ok m ↔ p.toList.contains '\x00' = false ∧ p.isEmpty = false ∧
      p.utf8ByteSize ≤ maxPath ∧ Leads d whole maxLinks (if Path.isAbsolute p then [] else d.cwd)
        ((Path.pieces p).reverse.dropWhile (· == "")).reverse m := by
  unfold locateWith
  split
  · simp_all
  · split
    · simp_all
    · split
      · rename_i hlong
        refine ⟨fun h => ?_, fun h => absurd h.2.2.1 (Nat.not_le.mpr hlong)⟩
        cases h
      · rename_i hnul hempty hlong
        exact ⟨fun h => ⟨by simpa using hnul, by simpa using hempty, Nat.not_lt.mp hlong,
          leads_of_walk h⟩, fun h => walk_of_leads h.2.2.2⟩

/-- Pieces lead where they led if no directory has gone and the links are the same. -/
theorem Leads.of_kept {whole : Bool} {n : Nat} {ps : List String} (hl : Leads d whole n l ps m)
    (hcwd : d'.cwd = d.cwd)
    (hdirs : ∀ l a, d.get? l = some (.directory a) → d'.get? l = some (.directory a))
    (hlinks : ∀ l t, d'.get? l = some (.link t) ↔ d.get? l = some (.link t)) :
    Leads d' whole n l ps m := by
  have hstep : ∀ {l m piece}, d.step l piece = .ok m → d'.step l piece = .ok m :=
    step_of_directory (hdirs _)
  have hbehind : ∀ {l rest t}, d'.behindLink l rest t = d.behindLink l rest t := by
    intro l rest t
    cases t <;> simp [behindLink, hcwd]
  induction hl with
  | here => exact .here
  | through hs hlink _ ih => exact .through (hstep hs) (fun t ht => hlink t ((hlinks _ t).mp ht)) ih
  | atLink hs hlink hwhole => exact .atLink (hstep hs) ((hlinks _ _).mpr hlink) hwhole
  | follow hs hlink hgoes _ ih =>
    exact .follow (hstep hs) ((hlinks _ _).mpr hlink) hgoes (by rwa [hbehind])

/-- Where no link stands at the end, it does not matter whether it would be followed. -/
theorem Leads.whole_of_ne_link {whole : Bool} {n : Nat} {ps : List String}
    (hl : Leads d whole n l ps m) (hm : ∀ t, d.get? m ≠ some (.link t)) :
    Leads d true n l ps m := by
  induction hl with
  | here => exact .here
  | through hs hlink _ ih => exact .through hs hlink (ih hm)
  | atLink _ hlink => exact absurd hlink (hm _)
  | follow hs hlink _ _ ih => exact .follow hs hlink (.inr rfl) (ih hm)

/-- The disks have the same directories and the same links. -/
structure SameWays (d d' : Disk) : Prop where
  cwd : d'.cwd = d.cwd
  get : ∀ l e, e.isDirectory = true ∨ e.isLink = true → (d'.get? l = some e ↔ d.get? l = some e)

namespace SameWays

theorem symm (h : SameWays d d') : SameWays d' d :=
  ⟨h.cwd.symm, fun l e he => (h.get l e he).symm⟩

theorem trans (h : SameWays d d') (h' : SameWays d' d'') : SameWays d d'' :=
  ⟨h'.cwd.trans h.cwd, fun l e he => (h'.get l e he).trans (h.get l e he)⟩

theorem leads {whole : Bool} {n : Nat} {ps : List String} (h : SameWays d d')
    (hl : Leads d whole n l ps m) : Leads d' whole n l ps m :=
  hl.of_kept h.cwd (fun _ _ => (h.get _ _ (.inl rfl)).mpr) fun _ _ => h.get _ _ (.inr rfl)

/-- **Directories and links make the meaning of a path.** -/
theorem locateWith_eq_ok {whole : Bool} (h : SameWays d d') :
    d'.locateWith whole p = .ok l ↔ d.locateWith whole p = .ok l := by
  rw [locateWith_eq_ok_iff, locateWith_eq_ok_iff, h.cwd]
  exact ⟨fun ⟨hnul, hempty, hlong, hl⟩ => ⟨hnul, hempty, hlong, h.symm.leads hl⟩,
    fun ⟨hnul, hempty, hlong, hl⟩ => ⟨hnul, hempty, hlong, h.leads hl⟩⟩

end SameWays

/-- The disks differ in their files only. -/
structure SameButFiles (d d' : Disk) : Prop where
  cwd : d'.cwd = d.cwd
  get : ∀ l e, e.isFile = false → (d'.get? l = some e ↔ d.get? l = some e)

namespace SameButFiles

theorem refl (d : Disk) : SameButFiles d d :=
  ⟨rfl, fun _ _ _ => Iff.rfl⟩

theorem trans (h : SameButFiles d d') (h' : SameButFiles d' d'') : SameButFiles d d'' :=
  ⟨h'.cwd.trans h.cwd, fun l e he => (h'.get l e he).trans (h.get l e he)⟩

theorem sameWays (h : SameButFiles d d') : SameWays d d' := by
  refine ⟨h.cwd, fun l e he => h.get l e ?_⟩
  cases e with
  | file => simp [Entry.isDirectory, Entry.isLink] at he
  | _ => rfl

/-- **Files have no part in the meaning of a path.** -/
theorem locateWith_eq_ok {whole : Bool} (h : SameButFiles d d') :
    d'.locateWith whole p = .ok l ↔ d.locateWith whole p = .ok l :=
  h.sameWays.locateWith_eq_ok

end SameButFiles

/-! ## Removing -/

/-- Without the entry at the end of a walk, the same pieces lead to the gap or nowhere: a link on
the way that is gone cannot be passed. -/
theorem leads_erase {n n' : Nat} {ps : List String} {k : Location} (hl : Leads d false n l ps m)
    (hl' : Leads (d.erase m) true n' l ps k) : k = m := by
  -- a step that is still possible goes where it went before
  have hstep : ∀ {m l x y piece}, d.step l piece = .ok x → (d.erase m).step l piece = .ok y →
      y = x := by
    intro m l x y piece hx hy
    have hy := step_of_directory (fun _ => get?_of_erase) hy
    rw [hx] at hy
    cases hy
    rfl
  induction hl generalizing n' with
  | here =>
    cases hl'
    rfl
  | through hs hlink _ ih =>
    cases hl' with
    | through hs' _ on =>
      cases hstep hs hs'
      exact ih on
    | atLink _ _ hwhole => cases hwhole
    | follow hs' hlink' =>
      cases hstep hs hs'
      exact absurd (get?_of_erase hlink') (hlink _)
  | @atLink _ _ l' _ _ hs hlink =>
    cases hl' with
    | through hs' _ on =>
      cases hstep hs hs'
      cases on
      rfl
    | atLink _ _ hwhole => cases hwhole
    | follow hs' hlink' =>
      cases hstep hs hs'
      have hnil : l' ≠ [] := by
        rintro rfl
        cases hlink
      rw [get?_erase_self hnil] at hlink'
      cases hlink'
  | @follow _ _ l' m _ rest _ hs hlink hgoes _ ih =>
    obtain hrest | hwhole := hgoes
    · cases hl' with
      | through hs' hlink' on =>
        cases hstep hs hs'
        have hgap : l' = m := by
          refine Decidable.byContradiction fun hne => ?_
          exact hlink' _ ((get?_erase_of_ne hne).trans hlink)
        subst hgap
        -- the way ends in the gap, and yet pieces are left
        cases on with
        | here => exact absurd rfl hrest
        | through hs'' | atLink hs'' | follow hs'' =>
          obtain ⟨a, ha⟩ := exists_directory_of_step hs''
          have ha := get?_of_erase ha
          rw [hlink] at ha
          cases ha
      | atLink _ _ hwhole => cases hwhole
      | follow hs' hlink' _ on =>
        cases hstep hs hs'
        have hlink' := get?_of_erase hlink'
        rw [hlink] at hlink'
        cases hlink'
        exact ih on
    · cases hwhole

theorem statAt_eq_ok_iff {x : Except DiskError Location} :
    d.statAt p x = .ok (l, e) ↔
      x = .ok l ∧ d.get? l = some e ∧ (endsInSlash p = true → e.isDirectory = true) := by
  unfold statAt
  split
  · simp
  · rename_i k
    cases hk : d.get? k with
    | none =>
      refine ⟨nofun, fun ⟨hl, hget, _⟩ => ?_⟩
      cases hl
      rw [hk] at hget
      cases hget
    | some e' =>
      have hcond : (endsInSlash p && !e'.isDirectory) = false ↔
          (endsInSlash p = true → e'.isDirectory = true) := by
        cases endsInSlash p <;> simp
      have hsame : d.get? k = some e ↔ e' = e := by simp [hk]
      dsimp only
      cases hbad : endsInSlash p && !e'.isDirectory with
      | true =>
        rw [if_pos rfl]
        refine ⟨nofun, ?_⟩
        rintro ⟨hl, hget, hdir⟩
        cases hl
        rw [hsame.mp hget] at hcond hbad
        rw [hcond.mpr hdir] at hbad
        cases hbad
      | false =>
        rw [if_neg Bool.false_ne_true]
        constructor
        · rintro ⟨⟩
          exact ⟨rfl, hk, hcond.mp hbad⟩
        · rintro ⟨hl, hget, -⟩
          cases hl
          rw [hsame.mp hget]

theorem hasEntry_eq_false_iff : d.hasEntry p = false ↔ ∀ l e, d.stat p ≠ .ok (l, e) := by
  unfold hasEntry
  cases hstat : d.stat p with
  | error x => simp
  | ok x =>
    obtain ⟨l, e⟩ := x
    simp

theorem remove_cases (h : d.remove p = .ok d') : ∃ l e, d.locateName p = .ok l ∧ d.get? l = some e ∧
    e.isDirectory = false ∧ d' = d.erase l := by
  unfold remove at h
  split at h
  · cases h
  · cases h
  · rename_i l e hdir hstat
    obtain ⟨hloc, hget, -⟩ := statAt_eq_ok_iff.mp hstat
    split at h
    · cases h
      refine ⟨l, e, hloc, hget, ?_, rfl⟩
      cases e with
      | directory a => exact absurd rfl (hdir a)
      | _ => rfl
    · cases h

/-- **Removal.** A name that was removed leads nowhere. -/
theorem hasEntry_of_remove (hp : endsInSlash p = false) (h : d.remove p = .ok d') :
    d'.hasEntry p = false := by
  obtain ⟨m, e, hloc, hget, hdir, rfl⟩ := remove_cases h
  rw [hasEntry_eq_false_iff]
  intro k e' hstat
  obtain ⟨hloc', hget', -⟩ := statAt_eq_ok_iff.mp hstat
  rw [locateName, hp] at hloc
  obtain ⟨-, -, -, hleads⟩ := locateWith_eq_ok_iff.mp hloc
  obtain ⟨-, -, -, hleads'⟩ := locateWith_eq_ok_iff.mp hloc'
  have hk : k = m := leads_erase hleads hleads'
  subst hk
  have hnil : k ≠ [] := by
    rintro rfl
    cases hget
    cases hdir
  rw [get?_erase_self hnil] at hget'
  cases hget'

end Disk

end AstCompare
