import AstCompare.Path
import Mathlib.Algebra.GroupWithZero.Nat
import Mathlib.Algebra.Order.BigOperators.Group.List
import Mathlib.Algebra.Order.Group.Nat
import Mathlib.Data.List.DropRight

/-!
# The pieces of a path

A path is its pieces with slashes between them, and pieces have no slashes. A piece that is empty or
a single dot does not lead anywhere. The other ones decide where a path leads, so a parent is told
by them: it has all of them but the last.

## Main definitions

* `Path.moves`: the piece leads away from where it is met.

## Main results

* `Path.intercalate_pieces`, `Path.pieces_intercalate`: pieces and paths determine each other.
* `Path.pieces_join`: the pieces of a path below a directory.
* `Path.parent?_cases`: the pieces of a parent.
-/

namespace AstCompare.Path

variable {p q s dir name : String} {ps : List String}

/-! ## Pieces -/

theorem piecesFrom_cons_of_ne {c : Char} (hc : c ≠ '/') (current cs : List Char) :
    piecesFrom current (c :: cs) = piecesFrom (c :: current) cs := by
  rw [piecesFrom]
  exact hc

theorem piecesFrom_append_slash (current xs ys : List Char) :
    piecesFrom current (xs ++ '/' :: ys) = piecesFrom current xs ++ piecesFrom [] ys := by
  induction xs generalizing current with
  | nil => rfl
  | cons c cs ih =>
    by_cases hc : c = '/'
    · subst hc
      exact congrArg (current.reverse :: ·) (ih [])
    · rw [List.cons_append, piecesFrom_cons_of_ne hc, piecesFrom_cons_of_ne hc, ih]

theorem piecesFrom_of_notMem {cs : List Char} (h : '/' ∉ cs) (current : List Char) :
    piecesFrom current cs = [current.reverse ++ cs] := by
  induction cs generalizing current with
  | nil => simp [piecesFrom]
  | cons c cs ih =>
    obtain ⟨hc, hcs⟩ : '/' ≠ c ∧ '/' ∉ cs := by simpa using h
    rw [piecesFrom_cons_of_ne hc.symm, ih hcs]
    simp

theorem pieces_append_slash (a b : String) : pieces (a ++ "/" ++ b) = pieces a ++ pieces b := by
  have hchars : (a ++ "/" ++ b).toList = a.toList ++ '/' :: b.toList := by simp
  rw [pieces, hchars, piecesFrom_append_slash, List.map_append]
  rfl

theorem pieces_of_notMem (h : '/' ∉ s.toList) : pieces s = [s] := by
  rw [pieces, piecesFrom_of_notMem h]
  simp

theorem pieces_intercalate (h : ∀ s ∈ ps, '/' ∉ s.toList) (hne : ps ≠ []) :
    pieces ("/".intercalate ps) = ps := by
  induction ps with
  | nil => exact absurd rfl hne
  | cons s rest ih =>
    have hs : pieces s = [s] := pieces_of_notMem (h s List.mem_cons_self)
    by_cases hrest : rest = []
    · rw [hrest, String.intercalate_singleton, hs]
    · rw [String.intercalate_cons_of_ne_nil hrest, pieces_append_slash, hs,
        ih (fun t ht => h t (List.mem_cons_of_mem s ht)) hrest]
      rfl

theorem piecesFrom_ne_nil (current cs : List Char) : piecesFrom current cs ≠ [] := by
  fun_induction piecesFrom current cs with
  | case1 | case2 => exact List.cons_ne_nil _ _
  | case3 _ _ _ _ ih => exact ih

theorem intercalate_piecesFrom (current cs : List Char) :
    ['/'].intercalate (piecesFrom current cs) = current.reverse ++ cs := by
  fun_induction piecesFrom current cs with
  | case1 => simp
  | case2 current cs ih =>
    rw [List.intercalate_cons_of_ne_nil (piecesFrom_ne_nil _ _), ih]
    simp
  | case3 current c cs _ ih =>
    rw [ih]
    simp

/-- A path is its pieces with slashes between them. -/
theorem intercalate_pieces (p : String) : "/".intercalate (pieces p) = p := by
  apply String.toList_inj.mp
  have hlists : (pieces p).map String.toList = piecesFrom [] p.toList := by
    simp [pieces, Function.comp_def]
  rw [String.toList_intercalate, hlists]
  exact intercalate_piecesFrom [] p.toList

theorem slash_notMem_of_mem_piecesFrom {current cs piece : List Char} (hcur : '/' ∉ current)
    (h : piece ∈ piecesFrom current cs) : '/' ∉ piece := by
  fun_induction piecesFrom current cs with
  | case1 =>
    rw [List.mem_singleton.mp h]
    simpa using hcur
  | case2 current cs ih =>
    obtain rfl | hmem := List.mem_cons.mp h
    · simpa using hcur
    · exact ih List.not_mem_nil hmem
  | case3 current c cs hc ih =>
    refine ih (fun hmem => ?_) h
    obtain heq | hmem := List.mem_cons.mp hmem
    · exact hc heq.symm
    · exact hcur hmem

theorem slash_notMem_of_mem_pieces (h : s ∈ pieces p) : '/' ∉ s.toList := by
  obtain ⟨cs, hcs, rfl⟩ := List.mem_map.mp h
  rw [String.toList_ofList]
  exact slash_notMem_of_mem_piecesFrom List.not_mem_nil hcs

theorem mem_intercalate {c : Char} (h : c ∈ ("/".intercalate ps).toList) :
    c = '/' ∨ ∃ s ∈ ps, c ∈ s.toList := by
  induction ps with
  | nil => simp at h
  | cons s rest ih =>
    by_cases hrest : rest = []
    · rw [hrest, String.intercalate_singleton] at h
      exact .inr ⟨s, List.mem_cons_self, h⟩
    · rw [String.intercalate_cons_of_ne_nil hrest] at h
      simp only [String.toList_append, List.mem_append] at h
      obtain (hs | hc) | hmore := h
      · exact .inr ⟨s, List.mem_cons_self, hs⟩
      · exact .inl (by simpa using hc)
      · obtain hc | ⟨t, ht, hct⟩ := ih hmore
        · exact .inl hc
        · exact .inr ⟨t, List.mem_cons_of_mem s ht, hct⟩

theorem mem_intercalate_of_mem {c : Char} (hs : s ∈ ps) (hc : c ∈ s.toList) :
    c ∈ ("/".intercalate ps).toList := by
  induction ps with
  | nil => cases hs
  | cons t rest ih =>
    by_cases hrest : rest = []
    · subst hrest
      rw [List.mem_singleton.mp hs] at hc
      rwa [String.intercalate_singleton]
    · rw [String.intercalate_cons_of_ne_nil hrest]
      simp only [String.toList_append, List.mem_append]
      obtain rfl | hmem := List.mem_cons.mp hs
      · exact .inl (.inl hc)
      · exact .inr (ih hmem)

/-! ## Lengths -/

/-- The number of bytes that pieces take, each with a slash behind it. -/
def extent (ps : List String) : Nat :=
  (ps.map fun s => s.utf8ByteSize + 1).sum

theorem extent_append (ps qs : List String) : extent (ps ++ qs) = extent ps + extent qs := by
  simp [extent]

theorem extent_le_of_sublist {qs : List String} (h : ps.Sublist qs) : extent ps ≤ extent qs :=
  (h.map _).sum_le_sum fun _ _ => Nat.zero_le _

theorem utf8ByteSize_intercalate (hne : ps ≠ []) :
    ("/".intercalate ps).utf8ByteSize + 1 = extent ps := by
  induction ps with
  | nil => exact absurd rfl hne
  | cons s rest ih =>
    by_cases hrest : rest = []
    · simp [hrest, extent]
    · have hslash : "/".utf8ByteSize = 1 := rfl
      have hrest := ih hrest
      rw [String.intercalate_cons_of_ne_nil ‹_›, String.utf8ByteSize_append,
        String.utf8ByteSize_append, hslash]
      simp only [extent, List.map_cons, List.sum_cons] at hrest ⊢
      omega

theorem pieces_ne_nil (p : String) : pieces p ≠ [] := by
  simpa [pieces] using piecesFrom_ne_nil [] p.toList

theorem extent_pieces (p : String) : extent (pieces p) = p.utf8ByteSize + 1 := by
  rw [← utf8ByteSize_intercalate (pieces_ne_nil p), intercalate_pieces]

theorem utf8ByteSize_intercalate_le (ps : List String) :
    ("/".intercalate ps).utf8ByteSize ≤ extent ps := by
  by_cases hne : ps = []
  · simp [hne]
  · exact (Nat.le_succ _).trans (utf8ByteSize_intercalate hne).le

/-! ## Joining -/

theorem isAbsolute_append (h : dir ≠ "") (s : String) : isAbsolute (dir ++ s) = isAbsolute dir := by
  have hchars : dir.toList ≠ [] := by simpa using h
  rw [isAbsolute, isAbsolute, String.toList_append, List.head?_append_of_ne_nil _ hchars]

theorem isAbsolute_of_notMem (h : '/' ∉ s.toList) : isAbsolute s = false := by
  rw [isAbsolute, beq_eq_false_iff_ne]
  exact fun hhead => h (List.mem_of_mem_head? hhead)

theorem isAbsolute_join (hname : isAbsolute name = false) (dir : String) :
    isAbsolute (join dir name) = isAbsolute dir := by
  by_cases hdir : dir = ""
  · subst hdir
    have hjoin : join "" name = name := by simp [join, hname]
    rw [hjoin, hname]
    rfl
  · unfold join
    rw [hname]
    split
    · rename_i habs
      cases habs
    · split
      · exact isAbsolute_append hdir name
      · rw [String.append_assoc]
        exact isAbsolute_append hdir _

/-- Whatever is joined to a directory stands behind the same characters. -/
theorem exists_join_eq (dir : String) : ∃ between,
    (dir ++ between = "" ∨ (dir ++ between).toList.getLast? = some '/') ∧
      ∀ name, isAbsolute name = false → join dir name = dir ++ between ++ name := by
  by_cases hends : (dir.isEmpty || dir.toList.getLast? == some '/') = true
  · refine ⟨"", by simpa using hends, fun name hname => ?_⟩
    simp only [join, hname, hends, String.append_empty, Bool.false_eq_true, if_false, if_true]
  · refine ⟨"/", .inr (by simp), fun name hname => ?_⟩
    simp only [join, hname, hends, Bool.false_eq_true, if_false]

/-- The piece leads away from where it is met. -/
def moves (piece : String) : Bool :=
  piece != "" && piece != "."

theorem stays_cases (h : moves s = false) : s = "" ∨ s = "." := by
  by_cases hempty : s = ""
  · exact .inl hempty
  · exact .inr (by simpa [moves, hempty] using h)

theorem exists_piecesFrom_eq (current cs : List Char) :
    ∃ more rest, piecesFrom current cs = (current.reverse ++ more) :: rest := by
  fun_induction piecesFrom current cs with
  | case1 => exact ⟨[], [], by simp⟩
  | case2 current cs => exact ⟨[], piecesFrom [] cs, by simp⟩
  | case3 current c cs _ ih =>
    obtain ⟨more, rest, heq⟩ := ih
    exact ⟨c :: more, rest, by simpa using heq⟩

theorem filter_pieces_ne_nil {c : Char} (h : p.toList.head? = some c) (hslash : c ≠ '/')
    (hdot : c ≠ '.') : (pieces p).filter moves ≠ [] := by
  obtain ⟨cs, hcs⟩ := List.head?_eq_some_iff.mp h
  obtain ⟨more, rest, hpieces⟩ := exists_piecesFrom_eq [c] cs
  have hfirst : pieces p = String.ofList (c :: more) :: rest.map String.ofList := by
    rw [pieces, hcs, piecesFrom_cons_of_ne hslash, hpieces]
    rfl
  have hmoves : moves (String.ofList (c :: more)) = true := by
    rw [moves, Bool.and_eq_true, bne_iff_ne, bne_iff_ne]
    constructor <;>
    · intro heq
      have hchars := congrArg String.toList heq
      simp [hdot] at hchars
  rw [hfirst, List.filter_cons_of_pos hmoves]
  exact List.cons_ne_nil _ _

/-- The pieces of a directory come first in a path below it, up to pieces that lead nowhere. -/
theorem pieces_join (hname : isAbsolute name = false) (dir : String) :
    ∃ ps, pieces (join dir name) = ps ++ pieces name ∧
      ps.filter moves = (pieces dir).filter moves := by
  by_cases hdir : dir = ""
  · subst hdir
    exact ⟨[], by simp [join, hname], rfl⟩
  · unfold join
    rw [hname]
    split
    · rename_i habs
      cases habs
    · split
      · rename_i hslash
        have hlast : dir.toList.getLast? = some '/' := by simpa [hdir] using hslash
        obtain ⟨cs, hcs⟩ : ∃ cs, dir.toList = cs ++ ['/'] := List.getLast?_eq_some_iff.mp hlast
        have hsplit : dir = String.ofList cs ++ "/" ++ "" := by
          apply String.toList_inj.mp
          simp [hcs]
        refine ⟨pieces (String.ofList cs), ?_, ?_⟩
        · have hsplit' : dir ++ name = String.ofList cs ++ "/" ++ name := by
            rw [hsplit]
            simp
          rw [hsplit', pieces_append_slash]
        · rw [hsplit, pieces_append_slash, List.filter_append]
          exact (List.append_nil _).symm
      · exact ⟨pieces dir, pieces_append_slash dir name, rfl⟩

/-! ## Parts -/

theorem parts_cases (p : String) : parts p = (pieces p).filter moves ∨
    ∃ rest, pieces p = "." :: rest ∧ parts p = "." :: rest.filter moves := by
  unfold parts
  split
  · exact .inr ⟨_, by assumption, rfl⟩
  · exact .inl rfl

theorem filter_parts (p : String) : (parts p).filter moves = (pieces p).filter moves := by
  obtain hparts | ⟨rest, hrest, hparts⟩ := parts_cases p
  · rw [hparts, List.filter_filter]
    simp
  · have hdot : ∀ ps : List String, ("." :: ps).filter moves = ps.filter moves := fun _ => rfl
    rw [hparts, hrest, hdot, hdot, List.filter_filter]
    simp

theorem ne_empty_of_mem_parts (h : s ∈ parts p) : s ≠ "" := by
  have hmoves : ∀ ps : List String, s ∈ ps.filter moves → s ≠ "" := by
    intro ps hs
    have hs := (List.mem_filter.mp hs).2
    rintro rfl
    cases hs
  obtain hparts | ⟨rest, -, hparts⟩ := parts_cases p
  · exact hmoves _ (hparts ▸ h)
  · rw [hparts] at h
    obtain rfl | hmem := List.mem_cons.mp h
    · decide
    · exact hmoves rest hmem

theorem exists_pieces_of_isAbsolute (h : isAbsolute p = true) : ∃ rest, pieces p = "" :: rest := by
  obtain ⟨cs, hcs⟩ : ∃ cs, p.toList = '/' :: cs := by
    cases hp : p.toList with
    | nil => simp [isAbsolute, hp] at h
    | cons c cs =>
      have hc : c = '/' := by simpa [isAbsolute, hp] using h
      exact ⟨cs, hc ▸ rfl⟩
  exact ⟨(piecesFrom [] cs).map String.ofList, by rw [pieces, hcs]; rfl⟩

/-- Only a path that has no parts but a dot, and does not start at the root, ends in a part that
does not matter. -/
theorem moves_of_parts {rest : List String} {last : String} (h : parts p = rest ++ [last]) :
    moves last = true ∨ (rest = [] ∧ isAbsolute p = false) := by
  obtain hparts | ⟨tail, htail, hparts⟩ := parts_cases p
  · have hlast : last ∈ (pieces p).filter moves := by
      rw [← hparts, h]
      simp
    exact .inl (List.mem_filter.mp hlast).2
  · rw [h] at hparts
    cases rest with
    | nil =>
      refine .inr ⟨rfl, Bool.eq_false_iff.mpr fun habs => ?_⟩
      obtain ⟨tail', htail'⟩ := exists_pieces_of_isAbsolute habs
      rw [htail] at htail'
      exact absurd (List.cons.inj htail').1 (by decide)
    | cons r rest =>
      have hlast : last ∈ tail.filter moves := by
        rw [← (List.cons.inj hparts).2]
        simp
      exact .inl (List.mem_filter.mp hlast).2

theorem parts_sublist (p : String) :
    ((if isAbsolute p then [""] else []) ++ parts p).Sublist (pieces p) := by
  cases habs : isAbsolute p with
  | true =>
    obtain ⟨rest, hrest⟩ := exists_pieces_of_isAbsolute habs
    have hparts : parts p = rest.filter moves := by rw [parts, hrest]; rfl
    rw [hparts, hrest]
    exact List.filter_sublist.cons_cons ""
  | false =>
    obtain hparts | ⟨rest, hrest, hparts⟩ := parts_cases p
    · rw [hparts]
      exact List.filter_sublist
    · rw [hparts, hrest]
      exact List.filter_sublist.cons_cons "."

theorem filter_pieces_intercalate (h : ∀ s ∈ ps, '/' ∉ s.toList) :
    (pieces ("/".intercalate ps)).filter moves = ps.filter moves := by
  by_cases hne : ps = []
  · rw [hne]
    rfl
  · rw [pieces_intercalate h hne]

theorem isAbsolute_intercalate (h : ∀ s ∈ ps, '/' ∉ s.toList ∧ s ≠ "") :
    isAbsolute ("/".intercalate ps) = false := by
  cases ps with
  | nil => rfl
  | cons s rest =>
    obtain ⟨hslash, hne⟩ := h s List.mem_cons_self
    have hs := isAbsolute_of_notMem hslash
    by_cases hrest : rest = []
    · rw [hrest, String.intercalate_singleton, hs]
    · rw [String.intercalate_cons_of_ne_nil hrest, String.append_assoc, isAbsolute_append hne, hs]

/-! ## Parents -/

/-- A path that is put together from its parts. -/
def ofParts (absolute : Bool) (ps : List String) : String :=
  (if absolute then "/" else "") ++ "/".intercalate ps

theorem exists_parts_of_parent? (h : parent? p = some q) :
    ∃ rest last, parts p = rest ++ [last] ∧ q = ofParts (isAbsolute p) rest := by
  unfold parent? at h
  split at h
  · cases h
  · rename_i last above habove
    cases h
    refine ⟨above.reverse, last, ?_, rfl⟩
    rw [← List.reverse_reverse (parts p), habove, List.reverse_cons]

theorem filter_pieces_ofParts (absolute : Bool) (h : ∀ s ∈ ps, '/' ∉ s.toList) :
    (pieces (ofParts absolute ps)).filter moves = ps.filter moves := by
  cases absolute with
  | false =>
    rw [ofParts, if_neg Bool.false_ne_true, String.empty_append, filter_pieces_intercalate h]
  | true =>
    have hslash : ofParts true ps = "" ++ "/" ++ "/".intercalate ps := by simp [ofParts]
    rw [hslash, pieces_append_slash, List.filter_append, filter_pieces_intercalate h]
    rfl

theorem isAbsolute_ofParts (absolute : Bool) (h : ∀ s ∈ ps, '/' ∉ s.toList ∧ s ≠ "") :
    isAbsolute (ofParts absolute ps) = absolute := by
  cases absolute with
  | false => rw [ofParts, if_neg Bool.false_ne_true, String.empty_append, isAbsolute_intercalate h]
  | true => exact isAbsolute_append (by decide) _

theorem mem_ofParts {absolute : Bool} {c : Char} (h : c ∈ (ofParts absolute ps).toList) :
    c = '/' ∨ ∃ s ∈ ps, c ∈ s.toList := by
  rw [ofParts, String.toList_append, List.mem_append] at h
  obtain hc | hc := h
  · cases absolute with
    | false => simp at hc
    | true => exact .inl (by simpa using hc)
  · exact mem_intercalate hc

theorem utf8ByteSize_ofParts_le (absolute : Bool) (ps : List String) :
    (ofParts absolute ps).utf8ByteSize ≤ extent ((if absolute then [""] else []) ++ ps) := by
  have hps := utf8ByteSize_intercalate_le ps
  rw [ofParts, String.utf8ByteSize_append, extent_append]
  cases absolute with
  | false =>
    have hempty : "".utf8ByteSize = 0 := rfl
    rw [if_neg Bool.false_ne_true, hempty]
    omega
  | true =>
    have hslash : "/".utf8ByteSize = 1 := rfl
    have hone : extent [""] = 1 := rfl
    rw [if_pos rfl, if_pos rfl, hslash, hone]
    omega

/-- **Parents.** A parent is empty, or it starts where the path starts and has all pieces that
matter but the last. It is no longer than the path, and has no characters of its own. -/
theorem parent?_cases (h : parent? p = some q) : q = "" ∨
    ((∃ last, (pieces p).filter moves = (pieces q).filter moves ++ [last]) ∧
      isAbsolute q = isAbsolute p ∧ q.utf8ByteSize ≤ p.utf8ByteSize ∧
        ∀ c ∈ q.toList, c = '/' ∨ c ∈ p.toList) := by
  obtain ⟨rest, last, hparts, rfl⟩ := exists_parts_of_parent? h
  obtain hlast | ⟨rfl, habs⟩ := moves_of_parts hparts
  · have hsub := parts_sublist p
    have hmem : ∀ s ∈ rest, s ∈ parts p := fun s hs => hparts ▸ List.mem_append_left _ hs
    have hpiece : ∀ s ∈ rest, s ∈ pieces p := fun s hs =>
      hsub.subset (List.mem_append_right _ (hmem s hs))
    have hslash : ∀ s ∈ rest, '/' ∉ s.toList := fun s hs => slash_notMem_of_mem_pieces (hpiece s hs)
    refine .inr ⟨⟨last, ?_⟩, ?_, ?_, fun c hc => ?_⟩
    · rw [filter_pieces_ofParts _ hslash, ← filter_parts, hparts, List.filter_append,
        List.filter_singleton, hlast]
      rfl
    · exact isAbsolute_ofParts _ fun s hs => ⟨hslash s hs, ne_empty_of_mem_parts (hmem s hs)⟩
    · have hsize := extent_le_of_sublist hsub
      have hone : extent [last] = last.utf8ByteSize + 1 := by simp [extent]
      have hle := utf8ByteSize_ofParts_le (isAbsolute p) rest
      rw [hparts, ← List.append_assoc, extent_append, extent_pieces, hone] at hsize
      omega
    · obtain hc | ⟨s, hs, hcs⟩ := mem_ofParts hc
      · exact .inl hc
      · rw [← intercalate_pieces p]
        exact .inr (mem_intercalate_of_mem (hpiece s hs) hcs)
  · refine .inl ?_
    rw [habs]
    rfl

end AstCompare.Path
