import AstCompare.Comparison.Run
import AstCompare.Proofs.PathPieces
import Mathlib.Data.List.Nodup

/-!
# The names of what a comparison leaves

A comparison writes five files at most: the comparison picture, and for each section a picture and a
graph text. Where the run id has no slash in it, these are five different names in the output
directory, and comparisons that are named differently have no name in common.

## Main definitions

* `Naming.Plain`: the run id is a part of file names and nothing more.
* `Naming.names`: the five names.
* `Comparison.Job.outputs`: the five paths.

## Main results

* `Comparison.Job.outputs_eq`: the paths are the names in the output directory.
* `Naming.disjoint_names`: different namings have no name in common.
-/

namespace AstCompare

namespace Path

theorem reverse_takeWhile_append {x : Char} {cs ds : List Char} (hds : x ∉ ds)
    (hcs : cs = [] ∨ cs.getLast? = some x) :
    ((cs ++ ds).reverse.takeWhile (· != x)).reverse = ds := by
  have hall : ∀ c ∈ ds.reverse, (c != x) = true := by
    intro c hc
    rw [bne_iff_ne]
    rintro rfl
    exact hds (List.mem_reverse.mp hc)
  rw [List.reverse_append, List.takeWhile_append_of_pos hall]
  obtain rfl | hlast := hcs
  · simp
  · obtain ⟨before, rfl⟩ := List.getLast?_eq_some_iff.mp hlast
    simp

theorem splitName_append {base ext : List Char} (hbase : base ≠ [] ∧ base ≠ ['.'])
    (hext : '.' ∉ ext) : splitName (base ++ '.' :: ext) = (base, some ext) := by
  have htail : ((base ++ '.' :: ext).reverse.takeWhile (· != '.')).reverse = ext := by
    have happend : base ++ '.' :: ext = (base ++ ['.']) ++ ext := by simp
    rw [happend, reverse_takeWhile_append hext (.inr (by simp))]
  have hstem : (base ++ '.' :: ext).take ((base ++ '.' :: ext).length - ext.length - 1) = base := by
    have hlength : (base ++ '.' :: ext).length - ext.length - 1 = base.length := by
      simp only [List.length_append, List.length_cons]
      omega
    rw [hlength, List.take_left]
  have hname : base ++ '.' :: ext ≠ ['.', '.'] := by
    intro heq
    obtain ⟨c, cs, rfl⟩ := List.exists_cons_of_ne_nil hbase.1
    simp_all
  simp only [splitName, htail, hstem]
  simp [hbase.1, hname]

/-- Another extension for a name in a directory. -/
theorem withExtension_append {pre base ext : String}
    (hpre : pre = "" ∨ pre.toList.getLast? = some '/') (hslash : '/' ∉ (base ++ "." ++ ext).toList)
    (hbase : base ≠ "" ∧ base ≠ ".") (hdot : '.' ∉ ext.toList) (ext' : String) :
    withExtension (pre ++ (base ++ "." ++ ext)) ext' = pre ++ (base ++ "." ++ ext') := by
  have hchars : base.toList ≠ [] ∧ base.toList ≠ ['.'] := by
    refine ⟨by simpa using hbase.1, fun heq => hbase.2 ?_⟩
    apply String.toList_inj.mp
    rw [heq]
    rfl
  have hfile : (base ++ "." ++ ext).toList = base.toList ++ '.' :: ext.toList := by simp
  have hname : ((pre ++ (base ++ "." ++ ext)).toList.reverse.takeWhile (· != '/')).reverse =
      base.toList ++ '.' :: ext.toList := by
    rw [String.toList_append, reverse_takeWhile_append hslash (by simpa using hpre), hfile]
  have hdir : (pre ++ (base ++ "." ++ ext)).toList.take
        ((pre ++ (base ++ "." ++ ext)).toList.length - (base.toList ++ '.' :: ext.toList).length) =
      pre.toList := by
    rw [String.toList_append, hfile, List.length_append, Nat.add_sub_cancel, List.take_left]
  apply String.toList_inj.mp
  simp only [withExtension, hname, hdir, splitName_append hchars hdot]
  split
  · rename_i heq
    exact absurd heq hchars.2
  · simp

end Path

/-! ## The five names -/

namespace Naming

/-- The run id has no slash in it. -/
def Plain : Naming → Prop
  | fixed => True
  | perRun id => '/' ∉ id.toList

instance : DecidablePred Plain
  | fixed => inferInstanceAs (Decidable True)
  | perRun id => inferInstanceAs (Decidable ('/' ∉ id.toList))

/-- What stands between the stem and the extension of a file name. -/
def tag : Naming → String
  | fixed => ""
  | perRun id => "-" ++ id

theorem fileName_eq (n : Naming) (stem : String) :
    n.fileName stem = stem ++ n.tag ++ "." ++ "png" := by
  cases n <;> simp [fileName, tag, String.append_assoc]

theorem tag_inj {n n' : Naming} (h : n.tag = n'.tag) : n = n' := by
  cases n <;> cases n' <;> simp_all [tag]

/-- The stems and the extensions of the five files. -/
def kinds : List (String × String) :=
  [("ast_comparison", "png"), ("original_ast", "png"), ("optimized_ast_highlighted", "png"),
    ("original_ast", "dot"), ("optimized_ast_highlighted", "dot")]

theorem two_le_length_stem : ∀ k ∈ kinds, 2 ≤ k.1.toList.length := by
  decide

/-- The name of a file of that kind. -/
def name (n : Naming) (kind : String × String) : String :=
  kind.1 ++ n.tag ++ "." ++ kind.2

/-- The names of the five files. -/
def names (n : Naming) : List String :=
  kinds.map n.name

/-- A name tells whose file it is, and which: the extensions have one length, and the first two
characters tell the stem. -/
theorem name_inj {n n' : Naming} {k k' : String × String} (hk : k ∈ kinds) (hk' : k' ∈ kinds)
    (h : n.name k = n'.name k') : n = n' ∧ k = k' := by
  have hext : ∀ k ∈ kinds, k.2.toList.length = 3 := by decide
  have hstems : ∀ k ∈ kinds, ∀ k' ∈ kinds, k.1.toList.take 2 = k'.1.toList.take 2 → k.1 = k'.1 := by
    decide
  have hchars := congrArg String.toList h
  simp only [name, String.toList_append] at hchars
  obtain ⟨hfront, hback⟩ := List.append_inj' hchars (by rw [hext k hk, hext k' hk'])
  have hfront := List.append_cancel_right hfront
  have hstem : k.1 = k'.1 := by
    refine hstems k hk k' hk' ?_
    have htake := congrArg (List.take 2) hfront
    rwa [List.take_append_of_le_length (two_le_length_stem k hk),
      List.take_append_of_le_length (two_le_length_stem k' hk')] at htake
  rw [hstem] at hfront
  have htag : n.tag = n'.tag := String.toList_inj.mp (List.append_cancel_left hfront)
  exact ⟨tag_inj htag, Prod.ext hstem (String.toList_inj.mp hback)⟩

/-- **Different namings have no name in common.** -/
theorem disjoint_names {n n' : Naming} (h : n ≠ n') : n.names.Disjoint n'.names := by
  intro s hs hs'
  obtain ⟨k, hk, rfl⟩ := List.mem_map.mp hs
  obtain ⟨k', hk', hname⟩ := List.mem_map.mp hs'
  exact h (name_inj hk hk' hname.symm).1

theorem nodup_names (n : Naming) : n.names.Nodup := by
  refine List.Nodup.map_on (fun k hk k' hk' hname => (name_inj hk hk' hname).2) ?_
  decide

theorem moves_of_mem_names {n : Naming} {s : String} (h : s ∈ n.names) :
    Path.moves s = true ∧ s ≠ ".." := by
  obtain ⟨k, hk, rfl⟩ := List.mem_map.mp h
  have hlength : 3 ≤ (n.name k).toList.length := by
    have hstem := two_le_length_stem k hk
    have hdot : ".".toList.length = 1 := rfl
    simp only [name, String.toList_append, List.length_append, hdot]
    omega
  have hne : ∀ s : String, s.toList.length < 3 → n.name k ≠ s := by
    rintro s hs rfl
    omega
  rw [Path.moves, Bool.and_eq_true, bne_iff_ne, bne_iff_ne]
  exact ⟨⟨hne "" (by decide), hne "." (by decide)⟩, hne ".." (by decide)⟩

theorem Plain.slash_notMem {n : Naming} (hn : n.Plain) {s : String} (h : s ∈ n.names) :
    '/' ∉ s.toList := by
  obtain ⟨k, hk, rfl⟩ := List.mem_map.mp h
  have hkinds : ∀ k ∈ kinds, '/' ∉ k.1.toList ∧ '/' ∉ k.2.toList := by decide
  have htag : '/' ∉ n.tag.toList := by
    cases n with
    | fixed => exact List.not_mem_nil
    | perRun id =>
      have hid : '/' ∉ id.toList := hn
      simp [tag, hid]
  simp [name, hkinds k hk, htag]

end Naming

/-! ## The five paths -/

namespace Comparison.Job

variable (j : Job)

/-- The paths of the pictures and the graph texts of the two sections. -/
def drawn : List String :=
  [j.picturePath .before, j.picturePath .after, j.dotPath .before, j.dotPath .after]

/-- The paths of everything that a comparison may leave. -/
def outputs : List String :=
  j.artifacts.comparison :: j.drawn

theorem isAbsolute_name (n : Naming) {k : String × String} (hk : k ∈ Naming.kinds) :
    Path.isAbsolute (n.name k) = false := by
  have hhead : k.1 ≠ "" ∧ Path.isAbsolute k.1 = false := by
    revert k
    decide
  rw [Naming.name, String.append_assoc, String.append_assoc,
    Path.isAbsolute_append hhead.1, hhead.2]

theorem withExtension_picture (dir : String) {n : Naming} (hn : n.Plain) {stem : String}
    (hpng : (stem, "png") ∈ Naming.kinds) (hdot : (stem, "dot") ∈ Naming.kinds) :
    Path.withExtension (Path.join dir (n.fileName stem)) "dot" =
      Path.join dir (n.name (stem, "dot")) := by
  obtain ⟨between, hpre, hjoin⟩ := Path.exists_join_eq dir
  have hname : n.fileName stem = n.name (stem, "png") := n.fileName_eq stem
  have hslash := hn.slash_notMem (List.mem_map_of_mem hpng)
  have hlength : 2 ≤ (stem ++ n.tag).toList.length := by
    have hstem : 2 ≤ stem.toList.length := Naming.two_le_length_stem _ hpng
    rw [String.toList_append, List.length_append]
    omega
  have hbase : stem ++ n.tag ≠ "" ∧ stem ++ n.tag ≠ "." := by
    constructor <;>
    · intro heq
      rw [heq] at hlength
      revert hlength
      decide
  have hext : '.' ∉ "png".toList := by decide
  rw [hname, hjoin _ (isAbsolute_name n hpng), hjoin _ (isAbsolute_name n hdot)]
  exact Path.withExtension_append hpre hslash hbase hext "dot"

/-- **The paths are the names in the output directory.** -/
theorem outputs_eq (hn : j.naming.Plain) :
    j.outputs = j.naming.names.map (Path.join j.outputDir) := by
  simp only [outputs, drawn, dotPath, picturePath, artifacts, Artifacts.ofNaming, Naming.names,
    Naming.kinds, List.map_cons, List.map_nil]
  rw [withExtension_picture _ hn (by decide) (by decide),
    withExtension_picture _ hn (by decide) (by decide), Naming.fileName_eq, Naming.fileName_eq,
    Naming.fileName_eq]
  rfl

/-- Paths of different kinds are different, as they stand behind the same characters. -/
theorem join_name_inj {n : Naming} {k k' : String × String} {dir : String} (hk : k ∈ Naming.kinds)
    (hk' : k' ∈ Naming.kinds) (h : Path.join dir (n.name k) = Path.join dir (n.name k')) :
    k = k' := by
  obtain ⟨between, -, hjoin⟩ := Path.exists_join_eq dir
  rw [hjoin _ (isAbsolute_name n hk), hjoin _ (isAbsolute_name n hk')] at h
  exact (Naming.name_inj hk hk' ((String.append_right_inj _).mp h)).2

theorem nodup_outputs (hn : j.naming.Plain) : j.outputs.Nodup := by
  rw [outputs_eq j hn, Naming.names, List.map_map]
  exact List.Nodup.map_on (fun k hk k' hk' => join_name_inj hk hk') (by decide)

theorem picturePath_inj {j : Job} {s s' : Section} (h : j.picturePath s = j.picturePath s') :
    s = s' := by
  have hname : ∀ stem, j.naming.fileName stem = j.naming.name (stem, "png") := j.naming.fileName_eq
  cases s <;> cases s' <;> try rfl
  all_goals
    simp only [picturePath, artifacts, Artifacts.ofNaming, hname] at h
    exact absurd (join_name_inj (by decide) (by decide) h) (by decide)

end Comparison.Job

end AstCompare
