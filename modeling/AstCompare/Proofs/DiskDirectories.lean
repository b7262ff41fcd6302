import AstCompare.Proofs.DiskFiles
import AstCompare.Proofs.PathPieces

/-!
# Directories and what is below them

A path that leads anywhere leads through its directory, and its parents are directories. So making a
directory together with those above it settles, once and for all, whether it can be made: it is a
directory exactly if it was made, and making it again changes nothing.

A path below a directory is gone along in two parts, first the one to the directory, then the rest.
This holds of the failures as well: which one is met depends on the directory alone.

## Main definitions

* `Disk.Base`: the location that the paths below a directory start from.

## Main results

* `Disk.isDirectory_parent`, `Disk.isDirectory_of_join`: what is above a path that leads somewhere.
* `Disk.locateWith_join`: where a name in a directory leads.
* `Disk.isDirectory_of_createDirAll`, `Disk.isDirectory_eq_false_of_createDirAll`: making
  directories.
* `Disk.createDirAll_again`: making them again.
-/

namespace AstCompare.Disk

variable {d d' : Disk} {l m : Location} {p q dir name : String} {ps qs : List String} {whole : Bool}
  {n : Nat}

/-! ## Walks in two parts -/

theorem walkWith_skip {x : String} {onLink : Location → List String → Except DiskError Location}
    (hx : Path.moves x = false) (hqs : qs ≠ [])
    (hlink : ∀ l ps, onLink l (ps ++ x :: qs) = onLink l (ps ++ qs)) (l : Location)
    (ps : List String) :
    d.walkWith whole onLink l (ps ++ x :: qs) = d.walkWith whole onLink l (ps ++ qs) := by
  induction ps generalizing l with
  | nil =>
    obtain ⟨q, rest, rfl⟩ := List.exists_cons_of_ne_nil hqs
    rw [List.nil_append, List.nil_append, walkWith]
    -- whatever keeps one from making the step keeps one from making the next one too
    cases hget : d.get? l with
    | none => simp [walkWith, step, hget]
    | some e =>
      cases e with
      | directory a =>
        by_cases hrun : a.allows .run
        · have hstep : d.step l x = .ok l := by
            obtain rfl | rfl := Path.stays_cases hx <;> simp [step, hget, hrun]
          rw [hstep]
          simp [hget]
        · simp [walkWith, step, hget, hrun]
      | _ => simp [walkWith, step, hget]
  | cons piece ps ih =>
    have hmore : (ps ++ qs).isEmpty = false ∧ (ps ++ x :: qs).isEmpty = false := by simp [hqs]
    have hpath : ∀ l p, onLink l (Path.pieces p ++ (ps ++ x :: qs)) =
        onLink l (Path.pieces p ++ (ps ++ qs)) := by
      intro l p
      simpa using hlink l (Path.pieces p ++ ps)
    simp only [List.cons_append, walkWith, hmore.1, hmore.2, hpath, hlink, ih]

/-- A piece that leads nowhere can be left out of a walk, if it does not come last. -/
theorem walk_skip {x : String} (hx : Path.moves x = false) (hqs : qs ≠ []) (l : Location)
    (ps : List String) : d.walk whole n l (ps ++ x :: qs) = d.walk whole n l (ps ++ qs) := by
  induction n generalizing l ps with
  | zero => exact walkWith_skip hx hqs (fun _ _ => rfl) l ps
  | succ n ih => exact walkWith_skip hx hqs (fun l ps => ih l ps) l ps

theorem walk_filter (hqs : qs ≠ []) (l : Location) (ps : List String) :
    d.walk whole n l (ps.filter Path.moves ++ qs) = d.walk whole n l (ps ++ qs) := by
  -- the pieces that have been looked at already
  have hfrom : ∀ before, d.walk whole n l (before ++ (ps.filter Path.moves ++ qs)) =
      d.walk whole n l (before ++ (ps ++ qs)) := by
    induction ps with
    | nil => exact fun _ => rfl
    | cons x ps ih =>
      intro before
      cases hx : Path.moves x with
      | true =>
        have hmore := ih (before ++ [x])
        rw [List.append_assoc, List.append_assoc] at hmore
        rw [List.filter_cons_of_pos hx]
        exact hmore
      | false =>
        have hne : ps ++ qs ≠ [] := by simp [hqs]
        rw [List.filter_cons_of_neg (by simp [hx]), ih before]
        exact (walk_skip hx hne l before).symm
  exact hfrom []

/-- Only pieces that lead somewhere matter, if something follows. -/
theorem walk_congr {ps' : List String} (h : ps.filter Path.moves = ps'.filter Path.moves)
    (hqs : qs ≠ []) (l : Location) :
    d.walk whole n l (ps ++ qs) = d.walk whole n l (ps' ++ qs) := by
  rw [← walk_filter hqs l ps, h, walk_filter hqs l ps']

theorem walk_cons_of_ne_link {piece : String} {rest : List String} {l' : Location}
    (hstep : d.step l piece = .ok l') (hlink : ∀ t, d.get? l' ≠ some (.link t)) :
    d.walk whole n l (piece :: rest) = d.walk whole n l' rest := by
  cases n <;> exact walkWith_cons_of_ne_link hstep hlink

/-- **Walks in two parts.** Whatever comes next is gone along from where the first part leads. -/
theorem walk_append_of_leads (h : Leads d true n l ps m) : ∃ k, ∀ whole qs, qs ≠ [] →
    d.walk whole n l (ps ++ qs) = d.walk whole k m qs := by
  induction h with
  | @here n _ => exact ⟨n, fun _ _ _ => rfl⟩
  | through hstep hlink _ ih =>
    obtain ⟨k, hk⟩ := ih
    refine ⟨k, fun whole qs hqs => ?_⟩
    rw [← hk whole qs hqs]
    exact walk_cons_of_ne_link hstep hlink
  | atLink _ _ hwhole => cases hwhole
  | @follow n l l' m piece rest t hstep hlink _ _ ih =>
    obtain ⟨k, hk⟩ := ih
    refine ⟨k, fun whole qs hqs => ?_⟩
    rw [← hk whole qs hqs]
    have hmore : (rest ++ qs).isEmpty = false := by simp [hqs]
    cases t <;> simp [walk, walkWith, hstep, hlink, hmore, behindLink]

theorem leads_append (h : Leads d whole n l (ps ++ qs) m) (hqs : qs ≠ []) :
    ∃ k l', Leads d true n l ps l' ∧ Leads d whole k l' qs m := by
  generalize hall : ps ++ qs = all at h
  induction h generalizing ps with
  | here => exact absurd (List.append_eq_nil_iff.mp hall).2 hqs
  | through hstep hlink on ih =>
    cases ps with
    | nil =>
      rw [List.nil_append] at hall
      exact ⟨_, _, .here, by rw [hall]; exact .through hstep hlink on⟩
    | cons x ps =>
      cases hall
      obtain ⟨k, l', hfirst, hthen⟩ := ih rfl
      exact ⟨k, l', .through hstep hlink hfirst, hthen⟩
  | @atLink n _ _ _ _ hstep hlink hwhole =>
    cases ps with
    | nil =>
      rw [List.nil_append] at hall
      exact ⟨n, _, .here, by rw [hall]; exact .atLink hstep hlink hwhole⟩
    | cons x ps => exact absurd (List.append_eq_nil_iff.mp (List.cons.inj hall).2).2 hqs
  | @follow n l _ _ _ _ t hstep hlink hgoes on ih =>
    cases ps with
    | nil =>
      rw [List.nil_append] at hall
      exact ⟨_, _, .here, by rw [hall]; exact .follow hstep hlink hgoes on⟩
    | cons x ps =>
      cases hall
      have hbehind : (d.behindLink l ps t).2 ++ qs = (d.behindLink l (ps ++ qs) t).2 := by
        cases t <;> simp [behindLink]
      obtain ⟨k, l', hfirst, hthen⟩ := ih hbehind
      refine ⟨k, l', .follow hstep hlink (.inr rfl) ?_, hthen⟩
      have hfrom : (d.behindLink l ps t).1 = (d.behindLink l (ps ++ qs) t).1 := by cases t <;> rfl
      rwa [hfrom]

/-! ## What is above a path that leads somewhere -/

/-- Where the walk along a path starts. -/
def origin (d : Disk) (p : String) : Location :=
  if Path.isAbsolute p then [] else d.cwd

/-- The pieces along which a path is walked: slashes at its end are left aside. -/
def route (p : String) : List String :=
  ((Path.pieces p).reverse.dropWhile (· == "")).reverse

/-- The paths below a directory start from the location. The empty path stands for the working
directory. -/
def Base (d : Disk) (dir : String) (l : Location) : Prop :=
  Leads d true maxLinks (d.origin dir) (route dir) l

theorem filter_route (p : String) :
    (route p).filter Path.moves = (Path.pieces p).filter Path.moves := by
  have hslashes : ((Path.pieces p).rtakeWhile (· == "")).filter Path.moves = [] := by
    refine List.filter_eq_nil_iff.mpr fun s hs => ?_
    have hs : s = "" := by simpa using List.mem_rtakeWhile_imp hs
    rw [hs]
    decide
  have hall : route p ++ (Path.pieces p).rtakeWhile (· == "") = Path.pieces p :=
    List.rdropWhile_append_rtakeWhile
  rw [← hall, List.filter_append, hslashes, List.append_nil]

theorem step_stay {piece x : String} (h : d.step l piece = .ok m) (hx : Path.moves x = false) :
    d.step l x = .ok l := by
  obtain ⟨a, ha⟩ := exists_directory_of_step h
  have hrun : a.allows .run = true := by
    cases hrun : a.allows .run with
    | true => rfl
    | false => simp [step, ha, hrun] at h
  obtain rfl | rfl := Path.stays_cases hx <;> simp [step, ha, hrun]

theorem isDirectory_of_base {a : Attributes} (hnul : p.toList.contains '\x00' = false)
    (hempty : p ≠ "") (hlong : p.utf8ByteSize ≤ maxPath) (hbase : d.Base p l)
    (hget : d.get? l = some (.directory a)) : d.isDirectory p = true := by
  have hloc : d.locate p = .ok l :=
    locateWith_eq_ok_iff.mpr ⟨hnul, by simpa using hempty, hlong, hbase⟩
  have hstat : d.stat p = .ok (l, .directory a) := statAt_eq_ok_iff.mpr ⟨hloc, hget, fun _ => rfl⟩
  rw [isDirectory, hstat]
  rfl

/-- A path that leads somewhere leads through a directory wherever it has pieces that matter
left. -/
theorem isDirectory_of_locateWith (h : d.locateWith whole p = .ok m) (hempty : q ≠ "")
    {more : List String} (hmore : more ≠ [])
    (hmoves : (Path.pieces p).filter Path.moves = (Path.pieces q).filter Path.moves ++ more)
    (habs : Path.isAbsolute q = Path.isAbsolute p) (hsize : q.utf8ByteSize ≤ p.utf8ByteSize)
    (hchars : ∀ c ∈ q.toList, c = '/' ∨ c ∈ p.toList) : d.isDirectory q = true := by
  obtain ⟨hnul, -, hlong, hleads⟩ := locateWith_eq_ok_iff.mp h
  change Leads d whole maxLinks (d.origin p) (route p) m at hleads
  have horigin : d.origin p = d.origin q := by rw [origin, origin, habs]
  rw [horigin] at hleads
  rw [← filter_route] at hmoves
  obtain ⟨before, behind, hroute, hbefore, hbehind⟩ := List.filter_eq_append_iff.mp hmoves
  have hne : behind ≠ [] := by
    rintro rfl
    exact hmore hbehind.symm
  rw [hroute] at hleads
  obtain ⟨k, l, hfirst, hthen⟩ := leads_append hleads hne
  -- the location between the two parts is a directory that may be gone through
  have hstay : d.step l "" = .ok l := by
    cases hthen with
    | here => exact absurd rfl hne
    | through hstep | atLink hstep | follow hstep => exact step_stay hstep rfl
  obtain ⟨a, ha⟩ := exists_directory_of_step hstay
  have hnolink : ∀ t, d.get? l ≠ some (.link t) := by
    intro t
    rw [ha]
    exact nofun
  obtain ⟨k', hk'⟩ := walk_append_of_leads hfirst
  have hinto : d.walk true maxLinks (d.origin q) (route q ++ [""]) = .ok l := by
    have hsame : (route q).filter Path.moves = before.filter Path.moves := by
      rw [filter_route, hbefore]
    rw [walk_congr hsame (List.cons_ne_nil _ _), hk' true [""] (List.cons_ne_nil _ _),
      walk_cons_of_ne_link hstay hnolink]
    exact walk_of_leads .here
  obtain ⟨k'', l'', hroute', hlast⟩ := leads_append (leads_of_walk hinto) (List.cons_ne_nil _ _)
  obtain ⟨a', ha'⟩ : ∃ a, d.get? l'' = some (.directory a) := by
    cases hlast with
    | through hstep | follow hstep => exact exists_directory_of_step hstep
    | atLink _ _ hwhole => cases hwhole
  refine isDirectory_of_base ?_ hempty (hsize.trans hlong) hroute' ha'
  rw [List.contains_eq_mem, decide_eq_false_iff_not] at hnul ⊢
  intro hmem
  obtain hslash | hmem := hchars _ hmem
  · exact absurd hslash (by decide)
  · exact hnul hmem

/-- The parent of a path that leads somewhere is a directory. -/
theorem isDirectory_parent (h : d.locateWith whole p = .ok m) (hq : Path.parent? p = some q) :
    q = "" ∨ d.isDirectory q = true := by
  obtain rfl | ⟨⟨last, hmoves⟩, habs, hsize, hchars⟩ := Path.parent?_cases hq
  · exact .inl rfl
  · by_cases hempty : q = ""
    · exact .inl hempty
    · exact .inr
        (isDirectory_of_locateWith h hempty (List.cons_ne_nil last []) hmoves habs hsize hchars)

/-- If a path below a directory leads somewhere, that directory is there. -/
theorem isDirectory_of_join (h : d.locateWith whole (Path.join dir name) = .ok m) (hdir : dir ≠ "")
    (hname : Path.isAbsolute name = false) (hmore : (Path.pieces name).filter Path.moves ≠ []) :
    d.isDirectory dir = true := by
  obtain ⟨ps, hps, hmoves⟩ := Path.pieces_join hname dir
  refine isDirectory_of_locateWith h hdir hmore ?_ (Path.isAbsolute_join hname dir).symm ?_ ?_
  · rw [hps, List.filter_append, hmoves]
  all_goals
    obtain ⟨between, -, hjoin⟩ := Path.exists_join_eq dir
    rw [hjoin name hname]
  · rw [String.utf8ByteSize_append, String.utf8ByteSize_append]
    omega
  · intro c hc
    exact .inr (by simp [hc])

/-! ## Names in a directory -/

theorem step_of_moves (hmoves : Path.moves name = true) (hdots : name ≠ "..")
    (h : d.step l name = .ok m) :
    m = l ++ [name] := by
  obtain ⟨a, ha⟩ := exists_directory_of_step h
  obtain ⟨hempty, hdot⟩ : name ≠ "" ∧ name ≠ "." := by simpa [Path.moves] using hmoves
  unfold step at h
  simp only [ha, beq_iff_eq, hempty, hdot, hdots, Bool.or_eq_true, or_self, if_false] at h
  split at h
  · cases h
  · split at h
    · cases h
    · cases h
      rfl

theorem endsInSlash_join (hslash : '/' ∉ name.toList) (hname : name ≠ "") :
    endsInSlash (Path.join dir name) = false := by
  obtain ⟨between, -, hjoin⟩ := Path.exists_join_eq dir
  obtain ⟨c, hc⟩ : ∃ c, name.toList.getLast? = some c :=
    Option.ne_none_iff_exists'.mp (by simpa using hname)
  rw [endsInSlash, hjoin name (Path.isAbsolute_of_notMem hslash), String.toList_append,
    List.getLast?_append, hc, beq_eq_false_iff_ne]
  intro hlast
  cases hlast
  exact hslash (List.mem_of_getLast? hc)

theorem walk_singleton
    (hlink : whole = true → ∀ m t, d.step l name = .ok m → d.get? m ≠ some (.link t)) :
    d.walk whole n l [name] = d.step l name := by
  have hwalk : ∀ onLink, d.walkWith whole onLink l [name] = d.step l name := by
    intro onLink
    cases hstep : d.step l name with
    | error e => simp [walkWith, hstep]
    | ok m =>
      cases whole with
      | true => rw [walkWith_cons_of_ne_link hstep fun t => hlink rfl m t hstep, walkWith]
      | false =>
        rw [walkWith, hstep]
        cases hget : d.get? m with
        | none => simp [hget, walkWith]
        | some e => cases e <;> simp [hget, walkWith]
  cases n <;> exact hwalk _

/-- Where a name in a directory leads. The last step decides, unless the path is no path at all. -/
theorem locateWith_join_of_step (hbase : d.Base dir l) (hslash : '/' ∉ name.toList)
    (hname : Path.moves name = true)
    (hlink : whole = true → ∀ m t, d.step l name = .ok m → d.get? m ≠ some (.link t)) :
    d.locateWith whole (Path.join dir name) =
      if (Path.join dir name).toList.contains '\x00' then .error .nulInPath
      else if maxPath < (Path.join dir name).utf8ByteSize then .error .nameTooLong
      else d.step l name := by
  have hrel := Path.isAbsolute_of_notMem hslash
  have hne : name ≠ "" := by
    rintro rfl
    cases hname
  obtain ⟨between, -, hjoin⟩ := Path.exists_join_eq dir
  have hempty : (Path.join dir name).isEmpty = false := by simp [hjoin name hrel, hne]
  obtain ⟨ps, hps, hmoves⟩ := Path.pieces_join hrel dir
  rw [Path.pieces_of_notMem hslash] at hps
  have hroute : route (Path.join dir name) = ps ++ [name] := by
    rw [route, hps]
    exact List.rdropWhile_concat_neg _ _ _ (by simpa using hne)
  have horigin : d.origin (Path.join dir name) = d.origin dir := by
    rw [origin, origin, Path.isAbsolute_join hrel]
  have hsame : ps.filter Path.moves = (route dir).filter Path.moves := by rw [hmoves, filter_route]
  obtain ⟨k, hk⟩ := walk_append_of_leads hbase
  have hwalk : d.walk whole maxLinks (d.origin (Path.join dir name)) (route (Path.join dir name)) =
      d.step l name := by
    rw [horigin, hroute, walk_congr hsame (List.cons_ne_nil _ _),
      hk whole [name] (List.cons_ne_nil _ _), walk_singleton hlink]
  rw [locateWith, hempty, ← hwalk]
  rfl

/-- The name of a path is a link. -/
def NamesLink (d : Disk) (p : String) : Prop :=
  ∃ l t, d.lstat p = .ok (l, .link t)

/-! Both depend on directories and links only. -/

theorem SameWays.base (h : SameWays d d') (hbase : d.Base dir l) : d'.Base dir l := by
  have horigin : d'.origin dir = d.origin dir := by rw [origin, origin, h.cwd]
  rw [Base, horigin]
  exact h.leads hbase

theorem SameWays.namesLink (h : SameWays d d') (hp : d'.NamesLink p) : d.NamesLink p := by
  obtain ⟨l, t, hstat⟩ := hp
  obtain ⟨hloc, hget, hslash⟩ := statAt_eq_ok_iff.mp hstat
  exact ⟨l, t,
    statAt_eq_ok_iff.mpr ⟨h.locateWith_eq_ok.mp hloc, (h.get l _ (.inr rfl)).mp hget, hslash⟩⟩

/-- **Names in a directory.** Where no link stands, a name in a directory leads one step further. -/
theorem locateWith_join (hbase : d.Base dir l) (hslash : '/' ∉ name.toList)
    (hname : Path.moves name = true) (hlink : ¬ d.NamesLink (Path.join dir name)) (whole : Bool) :
    d.locateWith whole (Path.join dir name) =
      if (Path.join dir name).toList.contains '\x00' then .error .nulInPath
      else if maxPath < (Path.join dir name).utf8ByteSize then .error .nameTooLong
      else d.step l name := by
  have hne : name ≠ "" := by
    rintro rfl
    cases hname
  have hslash' : endsInSlash (Path.join dir name) = false := endsInSlash_join hslash hne
  have hlast : d.locateName (Path.join dir name) = _ :=
    (congrArg (fun w => d.locateWith w (Path.join dir name)) hslash').trans
      (locateWith_join_of_step hbase hslash hname nofun)
  by_cases hnul : (Path.join dir name).toList.contains '\x00'
  · rw [locateWith, if_pos hnul, if_pos hnul]
  · by_cases hlong : maxPath < (Path.join dir name).utf8ByteSize
    · have hempty : (Path.join dir name).isEmpty = false := by
        rw [String.isEmpty_eq_utf8ByteSize_beq_zero, beq_eq_false_iff_ne]
        omega
      rw [locateWith, hempty, if_neg hnul, if_neg hnul, if_pos hlong]
      simp [hlong]
    · rw [if_neg hnul, if_neg hlong] at hlast
      refine locateWith_join_of_step hbase hslash hname fun _ m t hstep hget => hlink ⟨m, t, ?_⟩
      rw [lstat, statAt_eq_ok_iff, hslash']
      exact ⟨hlast.trans hstep, hget, nofun⟩

/-! ## Making directories -/

theorem createDir_cases (h : d.createDir p = .ok d') : ∃ l, d.locateName p = .ok l ∧
    d.get? l = none ∧ d' = d.set l (.directory (d.fresh 0o777)) := by
  unfold createDir create at h
  split at h
  · cases h
  · rename_i l hloc
    split at h
    · cases h
    · rename_i hfree
      split at h
      · cases h
      · split at h
        · cases h
        · cases h
          exact ⟨l, hloc, by simpa using hfree, rfl⟩

/-- A gap to which a path leads can be filled with a directory. -/
theorem leads_set_directory {a : Attributes} (hleads : Leads d whole n l ps m)
    (hgap : d.get? m = none) :
    Leads (d.set m (.directory a)) true n l ps m := by
  have hnone : ∀ {e}, d.get? m ≠ some e := by simp [hgap]
  have hkeep : ∀ k e, d.get? k = some e → (d.set m (.directory a)).get? k = some e := by
    intro k e hk
    rw [get?_set_of_ne, hk]
    rintro rfl
    exact hnone hk
  refine (hleads.whole_of_ne_link fun t => hnone).of_kept rfl (fun k b => hkeep k _) fun k t =>
    ⟨fun ht => ?_, hkeep k _⟩
  by_cases hk : k = m
  · rw [hk, get?_set_self (ne_nil_of_get? hgap)] at ht
    cases ht
  · rwa [get?_set_of_ne hk] at ht

theorem isDirectory_of_createDir (h : d.createDir p = .ok d') : d'.isDirectory p = true := by
  obtain ⟨l, hloc, hgap, rfl⟩ := createDir_cases h
  obtain ⟨hnul, hempty, hlong, hleads⟩ := locateWith_eq_ok_iff.mp hloc
  exact isDirectory_of_base hnul (by simpa using hempty) hlong (leads_set_directory hleads hgap)
    (get?_set_self (ne_nil_of_get? hgap))

/-- Where a path leads somewhere, it names something, be it a link. -/
theorem leads_of_whole (h : Leads d true n l ps m) : ∃ m', Leads d false n l ps m' ∧
    (m' = m ∨ ∃ t, d.get? m' = some (.link t)) := by
  induction h with
  | here => exact ⟨_, .here, .inl rfl⟩
  | through hs hlink _ ih =>
    obtain ⟨m', hon, hm'⟩ := ih
    exact ⟨m', .through hs hlink hon, hm'⟩
  | atLink _ _ hwhole => cases hwhole
  | @follow _ _ l' _ _ rest t hs hlink _ _ ih =>
    by_cases hrest : rest = []
    · subst hrest
      exact ⟨l', .atLink hs hlink rfl, .inr ⟨t, hlink⟩⟩
    · obtain ⟨m', hon, hm'⟩ := ih
      exact ⟨m', .follow hs hlink (.inl hrest) hon, hm'⟩

theorem exists_stat_of_isDirectory (h : d.isDirectory p = true) :
    ∃ l a, d.stat p = .ok (l, .directory a) := by
  unfold isDirectory at h
  split at h
  · rename_i l e hstat
    cases e with
    | directory a => exact ⟨l, a, hstat⟩
    | _ => cases h
  · cases h

theorem createDir_of_isDirectory (h : d.isDirectory p = true) :
    d.createDir p = .error .present := by
  obtain ⟨l, a, hstat⟩ := exists_stat_of_isDirectory h
  obtain ⟨hloc, hget, -⟩ := statAt_eq_ok_iff.mp hstat
  obtain ⟨m, hname, hsome⟩ : ∃ m, d.locateName p = .ok m ∧ (d.get? m).isSome = true := by
    rw [locateName]
    cases endsInSlash p with
    | true => exact ⟨l, hloc, by rw [hget]; rfl⟩
    | false =>
      obtain ⟨hnul, hempty, hlong, hleads⟩ := locateWith_eq_ok_iff.mp hloc
      obtain ⟨m, hm, hcases⟩ := leads_of_whole hleads
      refine ⟨m, locateWith_eq_ok_iff.mpr ⟨hnul, hempty, hlong, hm⟩, ?_⟩
      obtain rfl | ⟨t, ht⟩ := hcases
      · rw [hget]
        rfl
      · rw [ht]
        rfl
  simp [createDir, create, hname, hsome]

theorem createDirAllFrom_of_isDirectory (fuel : Nat) (h : p = "" ∨ d.isDirectory p = true) :
    createDirAllFrom fuel d p = (d, none) := by
  unfold createDirAllFrom
  split
  · rfl
  · rename_i hempty
    obtain rfl | hdir := h
    · exact absurd rfl hempty
    · simp [createDir_of_isDirectory hdir, hdir]

theorem parent_of_isDirectory {parent : String} (h : d.isDirectory p = true)
    (hparent : Path.parent? p = some parent) : parent = "" ∨ d.isDirectory parent = true := by
  obtain ⟨l, a, hstat⟩ := exists_stat_of_isDirectory h
  exact isDirectory_parent (statAt_eq_ok_iff.mp hstat).1 hparent

/-- A missing directory is tried again once its parent has been made. -/
theorem createDirAllFrom_of_parent {fuel : Nat} {e : DiskError}
    (hempty : p.isEmpty = false) (hmissing : d.createDir p = .error .notFound)
    (hq : Path.parent? p = some q) (hmade : createDirAllFrom fuel d q = (d', none))
    (hagain : d'.createDir p = .error e) :
    createDirAllFrom (fuel + 1) d p = (d', if d'.isDirectory p then none else some e) := by
  unfold createDirAllFrom
  simp only [hempty, hmissing, hq, hmade, hagain]
  cases d'.isDirectory p <;> rfl

/-- Without its parent it is not tried again. -/
theorem createDirAllFrom_of_parent_failed {fuel : Nat} {e : DiskError}
    (hempty : p.isEmpty = false) (hmissing : d.createDir p = .error .notFound)
    (hq : Path.parent? p = some q) (hmade : createDirAllFrom fuel d q = (d', some e)) :
    createDirAllFrom (fuel + 1) d p = (d', some e) := by
  unfold createDirAllFrom
  simp only [hempty, hmissing, hq, hmade]
  rfl

/-- A directory was made exactly if it is there afterwards. -/
theorem createDirAllFrom_eq_none_iff (fuel : Nat) (d : Disk) (p : String) :
    (createDirAllFrom fuel d p).2 = none ↔
      p = "" ∨ (createDirAllFrom fuel d p).1.isDirectory p = true := by
  fun_induction createDirAllFrom fuel d p
  case case1 hempty => simpa using Or.inl hempty
  case case2 hmade | case4 hmade _ => simp [isDirectory_of_createDir hmade]
  case case3 p hempty _ fuel parent hparent d' e hfailed ih =>
    -- without a directory above it there is none
    have hdir : ¬ d'.isDirectory p = true := by
      intro hdir
      rw [hfailed] at ih
      cases ih.mpr (parent_of_isDirectory hdir hparent)
    simpa [hdir] using hempty
  case case5 hdir _ | case8 hdir => simp [hdir]
  case case6 hempty _ _ _ _ _ _ _ _ hdir _ | case9 hempty _ _ _ hdir => simpa [hdir] using hempty
  case case7 p hempty hmissing _ =>
    have hdir : ¬ d.isDirectory p = true := by
      intro hdir
      rw [createDir_of_isDirectory hdir] at hmissing
      cases hmissing
    simpa [hdir] using hempty

/-- An attempt that fails at the directory itself changes nothing, if those at its parent do not. -/
theorem fst_createDirAllFrom {fuel : Nat} {e : DiskError} (hfails : d.createDir p = .error e)
    (hparent : e = .notFound → ∀ k q, fuel = k + 1 → Path.parent? p = some q →
      (createDirAllFrom k d q).1 = d) : (createDirAllFrom fuel d p).1 = d := by
  -- the attempt at the parent is made only where something is missing
  have hsame : ∀ {k q d' x}, d.createDir p = .error .notFound → fuel = k + 1 →
      Path.parent? p = some q → createDirAllFrom k d q = (d', x) → d' = d := by
    intro k q d' x hmissing hk hq hmade
    rw [hfails] at hmissing
    have hkept := hparent (by cases hmissing; rfl) k q hk hq
    rwa [hmade] at hkept
  revert hsame
  fun_cases createDirAllFrom fuel d p
  case case1 | case7 | case8 | case9 => exact fun _ => rfl
  case case2 hmade =>
    rw [hfails] at hmade
    cases hmade
  case case3 hmissing _ _ hq _ _ hmade | case5 hmissing _ _ hq _ hmade _ _ _
    | case6 hmissing _ _ hq _ hmade _ _ _ => exact fun hsame => hsame hmissing rfl hq hmade
  case case4 hmissing _ _ hq d' hmade _ hmade' =>
    intro hsame
    rw [hsame hmissing rfl hq hmade, hfails] at hmade'
    cases hmade'

/-- Another attempt at a directory changes nothing. -/
theorem fst_createDirAllFrom_again (fuel : Nat) (d : Disk) (p : String) :
    (createDirAllFrom fuel (createDirAllFrom fuel d p).1 p).1 = (createDirAllFrom fuel d p).1 := by
  by_cases hnone : (createDirAllFrom fuel d p).2 = none
  · rw [createDirAllFrom_of_isDirectory fuel ((createDirAllFrom_eq_none_iff fuel d p).mp hnone)]
  · revert hnone
    fun_induction createDirAllFrom fuel d p
    case case1 | case2 | case4 | case5 | case8 => exact fun hnone => absurd rfl hnone
    case case3 p hempty _ fuel parent hparent d' e hfailed ih =>
      intro _
      rw [hfailed] at ih
      have hnone := createDirAllFrom_eq_none_iff fuel d parent
      rw [hfailed] at hnone
      -- what is missing above the directory cannot be put up with
      have hfails : ∃ e', d'.createDir p = .error e' := by
        cases hmake : d'.createDir p with
        | error e' => exact ⟨e', rfl⟩
        | ok d'' =>
          obtain ⟨l, hloc, -⟩ := createDir_cases hmake
          cases hnone.mpr (isDirectory_parent hloc hparent)
      obtain ⟨e', hfails⟩ := hfails
      refine fst_createDirAllFrom hfails fun _ k q hk hq => ?_
      cases hk
      rw [hparent] at hq
      cases hq
      refine ih fun hnone => ?_
      cases hnone
    case case6 p _ _ fuel parent hparent d' hmade e hfails _ _ =>
      intro _
      have hnone := createDirAllFrom_eq_none_iff fuel d parent
      rw [hmade] at hnone
      refine fst_createDirAllFrom hfails fun _ k q hk hq => ?_
      rw [hparent] at hq
      cases hq
      rw [createDirAllFrom_of_isDirectory k (hnone.mp rfl)]
    case case7 hmissing hend =>
      exact fun _ => fst_createDirAllFrom hmissing fun _ k q hk hq => absurd (hend k q hk hq) id
    case case9 e hother hfails _ =>
      exact fun _ => fst_createDirAllFrom hfails fun hmissing => absurd (hother hmissing) id

/-! The same for the directory of a path with all those above it. -/

theorem createDirAll_of_isDirectory (h : p = "" ∨ d.isDirectory p = true) :
    d.createDirAll p = (d, none) :=
  createDirAllFrom_of_isDirectory _ h

/-- **Making a directory.** It was made exactly if it is there afterwards. -/
theorem createDirAll_eq_none_iff (d : Disk) (p : String) :
    (d.createDirAll p).2 = none ↔ p = "" ∨ (d.createDirAll p).1.isDirectory p = true :=
  createDirAllFrom_eq_none_iff _ d p

/-- **Making a directory again.** Whatever the first attempt has achieved, the second one achieves
it too, and it changes nothing. -/
theorem createDirAll_again (d : Disk) (p : String) :
    ((d.createDirAll p).1.createDirAll p).1 = (d.createDirAll p).1 ∧
      (((d.createDirAll p).1.createDirAll p).2 = none ↔ (d.createDirAll p).2 = none) := by
  have hdisk : ((d.createDirAll p).1.createDirAll p).1 = (d.createDirAll p).1 :=
    fst_createDirAllFrom_again _ d p
  refine ⟨hdisk, ?_⟩
  rw [createDirAll_eq_none_iff, createDirAll_eq_none_iff, hdisk]

/-- A directory that was made is one that paths can start from. -/
theorem exists_base (h : p = "" ∨ d.isDirectory p = true) : ∃ l, d.Base p l := by
  obtain rfl | hdir := h
  · exact ⟨d.cwd, .here⟩
  · obtain ⟨l, a, hstat⟩ := exists_stat_of_isDirectory hdir
    obtain ⟨-, -, -, hleads⟩ := locateWith_eq_ok_iff.mp (statAt_eq_ok_iff.mp hstat).1
    exact ⟨l, hleads⟩

end AstCompare.Disk
