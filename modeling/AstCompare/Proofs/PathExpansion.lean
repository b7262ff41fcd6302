import AstCompare.Settings.Expansion

/-!
# Expansion of a text made of parts

A text may be written part by part: characters that mean themselves, with every dollar sign doubled,
and references in braces, with or without a default. The scanner does not see the parts. It goes
over the characters from the left, and where two parts meet, their dollar signs and braces stand
next to each other. But each part, written in front of any other text, is taken apart just as it was
put together, so the scanner finds the parts again, and the text that comes out is the texts of the
parts one after the other. One reference that cannot be resolved undoes all the others, wherever it
stands.

## Main definitions

* `Expansion.Part`: a part of a text; `Part.written`, `Part.value`: how it is written and what it
  stands for.
* `Expansion.Part.Unset`: a reference that cannot be resolved.

## Main results

* `Expansion.substitute?_written`: a part in front of any text.
* `Expansion.expand_written`: the expansion of a text that is written part by part.
-/

namespace AstCompare.Settings

namespace Expansion

/-- A name of ASCII letters, digits and underscores. -/
structure VariableName where
  chars : List Char
  ne_nil : chars ≠ []
  isWord : chars.all (fun c => c.isAlphanum || c == '_') = true

/-- A text that can stand in braces as a default. -/
structure DefaultText where
  chars : List Char
  brace_notMem : '\x7d' ∉ chars

/-- A part of a text. -/
inductive Part where
  | literal (cs : List Char)
  | ref (name : VariableName)
  | refOr (name : VariableName) (default : DefaultText)

/-- The value of the variable with that name. -/
def VariableName.value? (e : Environment) (name : VariableName) : Option (List Char) :=
  (e.get? (String.ofList name.chars)).map String.toList

namespace Part

/-- How the part is written. -/
def written : Part → List Char
  | literal cs => cs.flatMap fun c => if c = '$' then ['$', '$'] else [c]
  | ref name => '$' :: '\x7b' :: (name.chars ++ ['\x7d'])
  | refOr name default => '$' :: '\x7b' :: (name.chars ++ ':' :: '-' :: default.chars ++ ['\x7d'])

/-- The part is a reference without a default, and there is no such variable. -/
def Unset (e : Environment) : Part → Prop
  | ref name => name.value? e = none
  | _ => False

/-- What the part stands for, if it is not unset. -/
def value (e : Environment) : Part → List Char
  | literal cs => cs
  | ref name => (name.value? e).getD []
  | refOr name default => (name.value? e).getD default.chars

end Part

/-! ## References in braces -/

theorem closing_append {inner : List Char} (hinner : '\x7d' ∉ inner) (rest : List Char) :
    closing (inner ++ '\x7d' :: rest) = some (inner, rest) := by
  induction inner with
  | nil => rfl
  | cons c inner ih =>
    obtain ⟨hc, hrest⟩ := List.ne_and_not_mem_of_not_mem_cons hinner
    rw [List.cons_append, closing, if_neg (Ne.symm hc), ih hrest]
    rfl

theorem splitDefault_cons {c : Char} (hc : c ≠ ':') (cs : List Char) :
    splitDefault (c :: cs) = (splitDefault cs).map fun p => (c :: p.1, p.2) := by
  rw [splitDefault]
  intro cs' hcolon
  exact absurd hcolon hc

theorem splitDefault_append {name : List Char} (hname : ':' ∉ name) (rest : List Char) :
    splitDefault (name ++ ':' :: '-' :: rest) = some (name, rest) := by
  induction name with
  | nil => rfl
  | cons c name ih =>
    obtain ⟨hc, hrest⟩ := List.ne_and_not_mem_of_not_mem_cons hname
    rw [List.cons_append, splitDefault_cons (Ne.symm hc), ih hrest]
    rfl

theorem splitDefault_of_notMem {name : List Char} (hname : ':' ∉ name) :
    splitDefault name = none := by
  induction name with
  | nil => rfl
  | cons c name ih =>
    obtain ⟨hc, hrest⟩ := List.ne_and_not_mem_of_not_mem_cons hname
    rw [splitDefault_cons (Ne.symm hc), ih hrest]
    rfl

theorem VariableName.notMem (name : VariableName) {c : Char}
    (hc : (c.isAlphanum || c == '_') = false) : c ∉ name.chars := by
  intro hmem
  have hword := List.all_eq_true.mp name.isWord c hmem
  rw [hc] at hword
  cases hword

theorem reference_name (name : VariableName) : reference name.chars = .ref name.chars none := by
  rw [reference, splitDefault_of_notMem (name.notMem (by decide))]

theorem reference_default (name : VariableName) (default : List Char) :
    reference (name.chars ++ ':' :: '-' :: default) = .ref name.chars (some default) := by
  rw [reference, splitDefault_append (name.notMem (by decide))]
  obtain ⟨c, cs, hchars⟩ := List.exists_cons_of_ne_nil name.ne_nil
  rw [hchars]

theorem pieces_brace {inner : List Char} (hinner : '\x7d' ∉ inner) (rest : List Char) :
    pieces ('$' :: '\x7b' :: (inner ++ '\x7d' :: rest)) = reference inner :: pieces rest := by
  rw [pieces]
  split
  next inner' rest' hclosing =>
    rw [closing_append hinner] at hclosing
    obtain ⟨rfl, rfl⟩ := Prod.mk.inj (Option.some.inj hclosing)
    rfl
  next hclosing =>
    rw [closing_append hinner] at hclosing
    cases hclosing

/-! ## Characters that mean themselves -/

theorem pieces_char (c : Char) (rest : List Char) :
    pieces ((if c = '$' then ['$', '$'] else [c]) ++ rest) = .literal [c] :: pieces rest := by
  split
  next hdollar =>
    subst hdollar
    rw [List.cons_append, List.cons_append, List.nil_append, pieces]
  next hother =>
    rw [List.cons_append, List.nil_append, pieces]
    · intro rest' hc
      exact absurd hc hother
    · intro rest' hc
      exact absurd hc hother
    · intro c' rest' hc
      exact absurd hc hother

/-! ## Parts in front of a text -/

theorem valueAll?_cons {e : Environment} {p : Piece} {v : List Char} (hp : p.value? e = some v)
    (ps : List Piece) : valueAll? e (p :: ps) = (valueAll? e ps).map (v ++ ·) := by
  rw [valueAll?, hp]
  cases valueAll? e ps <;> rfl

theorem valueAll?_cons_of_none {e : Environment} {p : Piece} (hp : p.value? e = none)
    (ps : List Piece) : valueAll? e (p :: ps) = none := by
  rw [valueAll?, hp]

theorem Piece.value?_ref (e : Environment) (name : VariableName) (default : Option (List Char)) :
    (Piece.ref name.chars default).value? e = (name.value? e).or default := by
  rw [Piece.value?, VariableName.value?]
  cases e.get? (String.ofList name.chars) <;> rfl

theorem substitute?_literal (e : Environment) (cs rest : List Char) :
    substitute? e ((Part.literal cs).written ++ rest) = (substitute? e rest).map (cs ++ ·) := by
  induction cs with
  | nil => simp [Part.written]
  | cons c cs ih =>
    rw [Part.written] at ih ⊢
    rw [List.flatMap_cons, List.append_assoc, substitute?, pieces_char, valueAll?_cons rfl,
      ← substitute?, ih, Option.map_map]
    rfl

theorem pieces_ref (name : VariableName) (rest : List Char) :
    pieces ((Part.ref name).written ++ rest) = .ref name.chars none :: pieces rest := by
  have hbrace := pieces_brace (name.notMem (c := '\x7d') (by decide)) rest
  rw [reference_name] at hbrace
  rw [← hbrace, Part.written]
  simp

theorem pieces_refOr (name : VariableName) (default : DefaultText) (rest : List Char) :
    pieces ((Part.refOr name default).written ++ rest) =
      .ref name.chars (some default.chars) :: pieces rest := by
  have hinner : '\x7d' ∉ name.chars ++ ':' :: '-' :: default.chars := by
    simp [name.notMem (c := '\x7d') (by decide), default.brace_notMem]
  have hbrace := pieces_brace hinner rest
  rw [reference_default] at hbrace
  rw [← hbrace, Part.written]
  simp

/-- **A part in front of any text** comes out as what it stands for, in front of what the text comes
out as. -/
theorem substitute?_written {e : Environment} {p : Part} (hp : ¬ p.Unset e) (rest : List Char) :
    substitute? e (p.written ++ rest) = (substitute? e rest).map (p.value e ++ ·) := by
  cases p with
  | literal cs => exact substitute?_literal e cs rest
  | ref name =>
    obtain ⟨v, hv⟩ := Option.ne_none_iff_exists'.mp hp
    rw [substitute?, pieces_ref, valueAll?_cons (v := v) (by rw [Piece.value?_ref, hv]; rfl),
      Part.value, hv]
    rfl
  | refOr name default =>
    rw [substitute?, pieces_refOr, valueAll?_cons (v := (name.value? e).getD default.chars)]
    · rfl
    · rw [Piece.value?_ref]
      cases name.value? e <;> rfl

/-- A reference that cannot be resolved, in front of any text. -/
theorem substitute?_of_unset {e : Environment} {p : Part} (hp : p.Unset e) (rest : List Char) :
    substitute? e (p.written ++ rest) = none := by
  cases p with
  | literal cs => exact hp.elim
  | ref name =>
    have hnone : name.value? e = none := hp
    rw [substitute?, pieces_ref, valueAll?_cons_of_none]
    rw [Piece.value?_ref, hnone]
    rfl
  | refOr name default => exact hp.elim

/-! ## Texts -/

theorem substitute?_flatMap {e : Environment} {ps : List Part} (hps : ∀ p ∈ ps, ¬ p.Unset e) :
    substitute? e (ps.flatMap Part.written) = some (ps.flatMap (Part.value e)) := by
  induction ps with
  | nil =>
    rw [List.flatMap_nil, substitute?, pieces]
    rfl
  | cons p ps ih =>
    obtain ⟨hp, hrest⟩ := List.forall_mem_cons.mp hps
    rw [List.flatMap_cons, substitute?_written hp, ih hrest, List.flatMap_cons]
    rfl

/-- One reference that cannot be resolved is enough, whatever stands before and after it. -/
theorem substitute?_flatMap_of_unset {e : Environment} {ps : List Part}
    (hps : ∃ p ∈ ps, p.Unset e) :
    substitute? e (ps.flatMap Part.written) = none := by
  induction ps with
  | nil =>
    obtain ⟨p, hmem, -⟩ := hps
    cases hmem
  | cons p ps ih =>
    rw [List.flatMap_cons]
    by_cases hp : p.Unset e
    · exact substitute?_of_unset hp _
    · have hrest : ∃ q ∈ ps, q.Unset e := by
        obtain ⟨q, hmem, hq⟩ := hps
        obtain rfl | htail := List.mem_cons.mp hmem
        · exact absurd hq hp
        · exact ⟨q, htail, hq⟩
      rw [substitute?_written hp, ih hrest]
      rfl

theorem expandTilde_of_head? {e : Environment} {cs : List Char} (hcs : cs.head? ≠ some '~') :
    expandTilde e cs = cs := by
  rw [expandTilde]
  · rintro home rfl _
    exact hcs rfl
  · rintro rest home rfl _
    exact hcs rfl

/-- A text that does not start with a tilde is expanded by its references alone. -/
theorem expandChars_of_head? (e : Environment) {cs : List Char} (hcs : cs.head? ≠ some '~') :
    expandChars e cs = (substitute? e cs).getD cs := by
  rw [expandChars]
  cases substitute? e cs with
  | none => rfl
  | some result =>
    simp only [Option.getD_some]
    by_cases hresult : result.head? = some '~'
    · rw [if_pos (by simp [hcs, hresult])]
    · rw [expandTilde_of_head? hresult, ite_self]

/-- **Expansion is compositional, and all or nothing.** Take a text that is written part by part and
does not start with a tilde. If every reference without a default is to a variable that is set, it
comes out as the literal characters, the values and the defaults one after the other, each taken as
it is. If a single one is not, the text comes out unchanged. -/
theorem expand_written (e : Environment) (ps : List Part)
    (htilde : (ps.flatMap Part.written).head? ≠ some '~') :
    ((∀ p ∈ ps, ¬ p.Unset e) →
      expand e (String.ofList (ps.flatMap Part.written)) =
        String.ofList (ps.flatMap (Part.value e))) ∧
    ((∃ p ∈ ps, p.Unset e) →
      expand e (String.ofList (ps.flatMap Part.written)) =
        String.ofList (ps.flatMap Part.written)) := by
  rw [expand, String.toList_ofList, expandChars_of_head? e htilde]
  constructor
  · intro hps
    rw [substitute?_flatMap hps, Option.getD_some]
  · intro hps
    rw [substitute?_flatMap_of_unset hps, Option.getD_none]

/-- A value that starts with a tilde and has a dollar sign, a variable that is set but empty,
doubled dollar signs next to braces and a default with a brace of its own; with a reference to
nothing at the end of it all is left as it was. -/
theorem expand_written_braces :
    let e : Environment := ⟨[("HOME", "/h"), ("X", "~$HOME"), ("E", "")], none⟩
    let x : VariableName := ⟨['X'], by decide, by decide⟩
    let empty : VariableName := ⟨['E'], by decide, by decide⟩
    let unset : VariableName := ⟨['U'], by decide, by decide⟩
    let ps : List Part := [.ref x, .literal "\x7d$".toList, .ref x,
      .refOr empty ⟨"d".toList, by decide⟩, .refOr unset ⟨"$\x7b:-".toList, by decide⟩]
    expand e (String.ofList (ps.flatMap Part.written)) = "~$HOME\x7d$~$HOME$\x7b:-" ∧
      expand e (String.ofList ((ps ++ [Part.ref unset]).flatMap Part.written)) =
        "$\x7bX\x7d\x7d$$$\x7bX\x7d$\x7bE:-d\x7d$\x7bU:-$\x7b:-\x7d$\x7bU\x7d" := by
  intro e x empty unset ps
  have hx : x.value? e ≠ none := by decide +kernel
  have hunset : unset.value? e = none := by decide +kernel
  refine ⟨((expand_written e ps (by decide +kernel)).1 ?_).trans (by decide +kernel),
    ((expand_written e (ps ++ [Part.ref unset]) (by decide +kernel)).2 ?_).trans
      (by decide +kernel)⟩
  · simp [ps, Part.Unset, hx]
  · exact ⟨Part.ref unset, by simp, hunset⟩

end Expansion

end AstCompare.Settings
