import AstCompare.Proofs.DotReading
import Mathlib.Tactic.ByContra

/-!
# Names of graphs

The name of a graph stands in the first line of its text without quotes, so it has to be what the
language takes for an identifier there: a word of ASCII letters, digits and underscores that does
not start with a digit, and not one of the six words that have a meaning of their own, in whatever
letters they are written. `Graph.legalName` makes a word of every text and leaves words alone. It
does not look at their meaning, so the six words come through.

There is no other way to such a name. An underscore that stands for another character and the letter
put in front of a digit both leave a character in the name that no keyword has. So what is written
is a keyword exactly if it was given as the name.

## Main definitions

* `Graph.IsWord`, `Graph.IsKeyword`: the words, and those with a meaning of their own.

## Main results

* `Graph.isWord_legalName`: every name becomes a word.
* `Graph.legalName_eq_self`: words are left as they are.
* `Graph.eq_of_isKeyword_legalName`: a keyword has not been made of anything else.
* `Graph.name_written_is_word`: what stands in the text of a graph.
-/

namespace AstCompare.Graph

/-! ## Words and keywords -/

/-- A word: one or more letters, digits and underscores of ASCII, of which the first is no digit. -/
structure IsWord (s : String) : Prop where
  ne_empty : s ≠ ""
  chars : ∀ c ∈ s.toList, c.isAlphanum = true ∨ c = '_'
  start : ∀ c ∈ s.toList.head?, c.isDigit = false

/-- The words that have a meaning of their own in graph texts. -/
def keywords : List String :=
  ["node", "edge", "graph", "digraph", "subgraph", "strict"]

/-- The text is a keyword, in capital or small letters. -/
def IsKeyword (s : String) : Prop :=
  s.toList.map Char.toLower ∈ keywords.map String.toList

instance (s : String) : Decidable (IsKeyword s) :=
  inferInstanceAs (Decidable (s.toList.map Char.toLower ∈ keywords.map String.toList))

/-- All letters come behind the digits. -/
theorem isDigit_eq_false_of_isAlpha {c : Char} (h : c.isAlpha = true) : c.isDigit = false := by
  have hlate : '9'.val < c.val := by
    obtain hupper | hlower := Bool.or_eq_true_iff.mp h
    · exact UInt32.lt_of_lt_of_le (by decide) (of_decide_eq_true hupper).1
    · have hstart := of_decide_eq_true (Bool.and_eq_true_iff.mp hlower).1
      exact UInt32.lt_of_lt_of_le (by decide) hstart
  rw [← Bool.not_eq_true, Char.isDigit_iff_toNat]
  rintro ⟨-, hdigit⟩
  exact absurd (UInt32.lt_iff_toNat_lt.mp hlate) (Nat.not_lt.mpr hdigit)

/-- Only capitals have another small letter. -/
theorem toLower_eq_self {c : Char} (h : c.isUpper = false) : c.toLower = c :=
  dif_neg fun hcapital => Bool.eq_false_iff.mp h (decide_eq_true hcapital)

/-- Keywords are made of letters. -/
theorem IsKeyword.isAlpha {s : String} (h : IsKeyword s) {c : Char} (hc : c ∈ s.toList) :
    c.isAlpha = true := by
  have hletters : (keywords.map String.toList).all (·.all Char.isLower) = true := by decide
  have hword := List.all_eq_true.mp (List.all_eq_true.mp hletters _ h)
  have hlower : c.toLower.isLower = true := hword _ (List.mem_map_of_mem hc)
  cases hupper : c.isUpper with
  | true => exact Bool.or_eq_true_iff.mpr (.inl hupper)
  | false =>
    rw [toLower_eq_self hupper] at hlower
    exact Bool.or_eq_true_iff.mpr (.inr hlower)

theorem IsKeyword.isWord {s : String} (h : IsKeyword s) : IsWord s where
  ne_empty := by
    rintro rfl
    exact absurd h (by decide)
  chars c hc := .inl (by rw [Char.isAlphanum, h.isAlpha hc, Bool.true_or])
  start c hc := isDigit_eq_false_of_isAlpha (h.isAlpha (List.mem_of_mem_head? hc))

/-! ## Names that are made legal -/

/-- The characters of a name, with underscores for those that a word cannot have. -/
def cleaned (name : String) : List Char :=
  name.toList.map fun c => if isNameChar c then c else '_'

theorem isNameChar_iff (c : Char) : isNameChar c = true ↔ c.isAlphanum = true ∨ c = '_' := by
  rw [isNameChar, Bool.or_eq_true, beq_iff_eq]

theorem cleaned_eq_toList {name : String} (h : ∀ c ∈ name.toList, isNameChar c = true) :
    cleaned name = name.toList := by
  refine (List.map_congr_left fun c hc => ?_).trans (List.map_id _)
  rw [if_pos (h c hc), id]

/-- Nothing is put in front, or a letter is put in front of a digit or of nothing. -/
theorem legalName_cases (name : String) :
    (cleaned name = [] ∧ legalName name = "G") ∨
    (∃ c cs, cleaned name = c :: cs ∧ c.isDigit = true ∧
      (legalName name).toList = 'G' :: cleaned name) ∨
    ∃ c cs, cleaned name = c :: cs ∧ c.isDigit = false ∧
      (legalName name).toList = cleaned name := by
  unfold legalName cleaned
  generalize name.toList.map (fun c => if isNameChar c then c else '_') = cs
  cases cs with
  | nil => exact .inl ⟨rfl, rfl⟩
  | cons c cs =>
    cases hc : c.isDigit with
    | true => exact .inr (.inl ⟨c, cs, rfl, hc, by simp [hc]⟩)
    | false => exact .inr (.inr ⟨c, cs, rfl, hc, by simp [hc]⟩)

/-- **Every name becomes a word.** -/
theorem isWord_legalName (name : String) : IsWord (legalName name) := by
  obtain ⟨hne, hchars⟩ := legalName_isWord name
  refine ⟨fun hempty => hne (by rw [hempty]; rfl),
    fun c hc => (isNameChar_iff c).mp (hchars c hc), ?_⟩
  obtain ⟨-, hname⟩ | ⟨c, cs, -, -, hname⟩ | ⟨c, cs, hcs, hc, hname⟩ := legalName_cases name
  · rw [hname]
    simp
  · rw [hname]
    simp
  · rw [hname, hcs]
    simpa using hc

/-- **Words are left as they are,** keywords among them. -/
theorem legalName_eq_self {name : String} (h : IsWord name) : legalName name = name := by
  have hcleaned := cleaned_eq_toList fun c hc => (isNameChar_iff c).mpr (h.chars c hc)
  obtain ⟨hcs, -⟩ | ⟨c, cs, hcs, hc, -⟩ | ⟨c, cs, -, -, hname⟩ := legalName_cases name
  · rw [hcleaned, String.toList_eq_nil_iff] at hcs
    exact absurd hcs h.ne_empty
  · have hstart := h.start c (by rw [← hcleaned, hcs]; rfl)
    rw [hc] at hstart
    cases hstart
  · rw [hcleaned] at hname
    exact String.toList_inj.mp hname

/-- **A keyword has not been made of anything else:** underscores and digits are no letters. -/
theorem eq_of_isKeyword_legalName {name : String} (h : IsKeyword (legalName name)) :
    legalName name = name := by
  obtain ⟨-, hname⟩ | ⟨c, cs, hcs, hc, hname⟩ | ⟨c, cs, -, -, hname⟩ := legalName_cases name
  · rw [hname] at h
    exact absurd h (by decide)
  · have hletter := h.isAlpha (c := c) (by simp [hname, hcs])
    rw [isDigit_eq_false_of_isAlpha hletter] at hc
    cases hc
  · have hkept : ∀ x ∈ name.toList, isNameChar x = true := by
      intro x hx
      by_contra hother
      have hletter := h.isAlpha (c := '_') (by
        rw [hname]
        exact List.mem_map.mpr ⟨x, hx, if_neg hother⟩)
      exact absurd hletter (by decide)
    rw [cleaned_eq_toList hkept] at hname
    exact String.toList_inj.mp hname

theorem isKeyword_legalName_iff (name : String) : IsKeyword (legalName name) ↔ IsKeyword name := by
  constructor
  · intro h
    rwa [eq_of_isKeyword_legalName h] at h
  · intro h
    rwa [legalName_eq_self h.isWord]

/-! ## Graph texts -/

theorem exists_text_eq (g : Graph) :
    ∃ rest, g.text = "digraph " ++ g.name ++ " \x7b\n" ++ rest := by
  have hfirst : " \x7b\n    node [shape=box, style=filled];\n" =
      " \x7b\n" ++ "    node [shape=box, style=filled];\n" := rfl
  refine ⟨"    node [shape=box, style=filled];\n" ++ String.join (g.nodes.map nodeLine) ++
    String.join (g.edges.map edgeLine) ++ "\x7d\n", ?_⟩
  rw [text, hfirst]
  simp only [String.append_assoc]

/-- **The name in a graph text.** Whatever name is given for the graph of a tree, a word stands in
its place in the first line of the text. A word is written as it is, and what is written is a
keyword exactly if the name that was given is one. -/
theorem name_written_is_word (t : Tree) (name : String) (coloring : Coloring) (palette : Palette) :
    ∃ word rest, (ofTree t name coloring palette).text = "digraph " ++ word ++ " \x7b\n" ++ rest ∧
      IsWord word ∧ (IsKeyword word ↔ IsKeyword name) ∧ (IsWord name → word = name) := by
  obtain ⟨rest, htext⟩ := exists_text_eq (ofTree t name coloring palette)
  exact ⟨legalName name, rest, htext, isWord_legalName name, isKeyword_legalName_iff name,
    legalName_eq_self⟩

/-- A keyword with a capital letter is a word and comes through. -/
theorem name_written_is_word_capital :
    IsWord "Node" ∧ IsKeyword "Node" ∧ ∃ rest,
      (ofTree (.leaf 0 "A") "Node" .uniform {}).text = "digraph Node \x7b\n" ++ rest := by
  have hkeyword : IsKeyword "Node" := by decide
  obtain ⟨word, rest, htext, -, -, hsame⟩ := name_written_is_word (.leaf 0 "A") "Node" .uniform {}
  rw [hsame hkeyword.isWord] at htext
  exact ⟨hkeyword.isWord, hkeyword, rest, htext⟩

end AstCompare.Graph
