import AstCompare.Settings.Load
import Mathlib.Tactic.ByContra

/-!
# Which layer a setting comes from

Settings are put together field by field in two places: where a layer is laid over what is there,
and where the variables are asked for their values. Both are long lists of fields that look alike,
and what is said here is said once for all fields: a field has the value of the highest layer that
gives it one, whatever the other fields have.

For that the fields become data. `Field` names the seven of them, `Kind` tells texts from truth
values, and `Settings.get` and `Layer.get` read a field by its name. The two fields that hold paths
are those for which `Field.finish` does something.

## When loading fails

Every source of settings may be at fault: the two files, and the variable of each field.
`Source.Bad` says when it is, and what is said about it. Loading fails exactly if some source is at
fault, and it reports the first one in the order `Source.inOrder`; `FirstOf` is that choice.

## Main results

* `load_eq_error_iff`: the failures of loading.
* `get_of_load`: every field of the settings that are loaded.
* `load_takes_highest_layer`: the two together.
-/

namespace AstCompare.Settings

/-! ## Fields -/

/-- What a field holds. -/
inductive Kind where
  | text
  | flag

namespace Kind

/-- The values of a kind. -/
abbrev Value : Kind → Type
  | text => String
  | flag => Bool

/-- How a kind is called in a complaint. -/
def name : Kind → String
  | text => "a string"
  | flag => "a boolean"

/-- The value that the text of a variable stands for. -/
def ofText? : (k : Kind) → String → Option k.Value
  | text, s => some s
  | flag, s => Variables.flag? (Text.lowercase s)

/-- The value that an entry of a document stands for. -/
def ofToml? : (k : Kind) → Toml.Value → Option k.Value
  | text, .string s => some s
  | flag, .boolean b => some b
  | _, _ => none

/-- The value that a variable gives, read as the kind demands. -/
def readVariable : (k : Kind) → Variables.Node → List String → Except Failure (Option k.Value)
  | text => Variables.textField
  | flag => Variables.flagField

end Kind

/-- The fields of the settings. -/
inductive Field where
  | outputDir
  | dotProgram
  | fixedNames
  | keepDot
  | indentUnit
  | unchanged
  | changed
  deriving DecidableEq

namespace Field

/-- All fields, in the order in which their variables are asked for. -/
def inOrder : List Field :=
  [outputDir, dotProgram, fixedNames, keepDot, indentUnit, unchanged, changed]

theorem mem_inOrder (f : Field) : f ∈ inOrder := by
  cases f <;> decide

/-- What the field holds. -/
def kind : Field → Kind
  | fixedNames | keepDot => .flag
  | _ => .text

/-- The names that lead to the field. -/
def key : Field → List String
  | outputDir => ["output_dir"]
  | dotProgram => ["dot_program"]
  | fixedNames => ["fixed_names"]
  | keepDot => ["keep_dot"]
  | indentUnit => ["indent_unit"]
  | unchanged => ["colors", "unchanged"]
  | changed => ["colors", "changed"]

/-- A color in the table of colors, or in a list of colors by its position. -/
def colorIn? (name : String) (position : Nat) : Toml.Value → Option Toml.Value
  | .table entries => entries.lookup name
  | .array items => items[position]?
  | _ => none

/-- What a document has for the field. -/
def valueIn? (v : Toml.Value) : Field → Option Toml.Value
  | outputDir => v.get? "output_dir"
  | dotProgram => v.get? "dot_program"
  | fixedNames => v.get? "fixed_names"
  | keepDot => v.get? "keep_dot"
  | indentUnit => v.get? "indent_unit"
  | unchanged => (v.get? "colors").bind (colorIn? "unchanged" 0)
  | changed => (v.get? "colors").bind (colorIn? "changed" 1)

/-- What becomes of a value at last: paths are expanded, everything else stays as it is. -/
def finish (e : Environment) : (f : Field) → f.kind.Value → f.kind.Value
  | outputDir, v => expand e v
  | dotProgram, v => expand e v
  | _, v => v

end Field

/-- The value of a field. -/
def get (s : Settings) : (f : Field) → f.kind.Value
  | .outputDir => s.outputDir
  | .dotProgram => s.dotProgram
  | .fixedNames => s.fixedNames
  | .keepDot => s.keepDot
  | .indentUnit => s.indentUnit
  | .unchanged => s.colors.unchanged
  | .changed => s.colors.changed

/-- The value that a layer gives to a field. -/
def Layer.get (l : Layer) : (f : Field) → Option f.kind.Value
  | .outputDir => l.outputDir
  | .dotProgram => l.dotProgram
  | .fixedNames => l.fixedNames
  | .keepDot => l.keepDot
  | .indentUnit => l.indentUnit
  | .unchanged => l.unchanged
  | .changed => l.changed

/-- The layer with given values. -/
def Layer.ofFields (values : (f : Field) → Option f.kind.Value) : Layer where
  outputDir := values .outputDir
  dotProgram := values .dotProgram
  fixedNames := values .fixedNames
  keepDot := values .keepDot
  indentUnit := values .indentUnit
  unchanged := values .unchanged
  changed := values .changed

@[simp] theorem Layer.get_ofFields (values : (f : Field) → Option f.kind.Value) (f : Field) :
    (ofFields values).get f = values f := by
  cases f <;> rfl

/-- Settings are determined by their fields. -/
theorem ext_get {s t : Settings} (h : ∀ f, s.get f = t.get f) : s = t := by
  obtain ⟨outputDir, dotProgram, fixedNames, keepDot, indentUnit, unchanged, changed⟩ := s
  obtain ⟨outputDir', dotProgram', fixedNames', keepDot', indentUnit', unchanged', changed'⟩ := t
  obtain rfl : outputDir = outputDir' := h .outputDir
  obtain rfl : dotProgram = dotProgram' := h .dotProgram
  obtain rfl : fixedNames = fixedNames' := h .fixedNames
  obtain rfl : keepDot = keepDot' := h .keepDot
  obtain rfl : indentUnit = indentUnit' := h .indentUnit
  obtain rfl : unchanged = unchanged' := h .unchanged
  obtain rfl : changed = changed' := h .changed
  rfl

@[simp] theorem get_overlay (s : Settings) (l : Layer) (f : Field) :
    (s.overlay l).get f = (l.get f).getD (s.get f) := by
  cases f <;> rfl

@[simp] theorem get_expandPaths (e : Environment) (s : Settings) (f : Field) :
    (expandPaths e s).get f = f.finish e (s.get f) := by
  cases f <;> rfl

/-! ## Files -/

/-- An entry under which colors may stand. -/
def HoldsColors : Toml.Value → Prop
  | .table _ | .array _ | .dateTime _ => True
  | _ => False

/-- A text that gives no settings: it is no document, an entry for a field is not of the kind of
that field, or what stands in the place of the colors cannot hold any. -/
inductive Unusable (text : String) : Prop where
  | noDocument (read : Toml.readDocument text = none)
  | entry {v x : Toml.Value} (f : Field) (read : Toml.readDocument text = some v)
      (there : f.valueIn? v = some x) (bad : f.kind.ofToml? x = none)
  | colors {v x : Toml.Value} (read : Toml.readDocument text = some v)
      (there : v.get? "colors" = some x) (bad : ¬ HoldsColors x)

/-- A settings file that is there cannot be used, and this is what is said about it. -/
inductive BadFile (d : Disk) (path : String) : Failure → Prop where
  | unreadable {x : DiskError} (there : d.hasEntry path = true)
      (read : d.readText path = .error x) :
      BadFile d path (.settings ("read " ++ path ++ ": " ++ x.message))
  | invalid {text : String} (there : d.hasEntry path = true) (read : d.readText path = .ok text)
      (bad : Unusable text) :
      BadFile d path (.settings ("parse " ++ path ++ ": TOML parse error"))

/-- The document in a settings file. -/
def document? (d : Disk) (path : String) : Option Toml.Value :=
  if d.hasEntry path then (d.readText path).toOption.bind Toml.readDocument else none

/-- The value that a settings file gives to a field. -/
def fileValue? (d : Disk) (path : Option String) (f : Field) : Option f.kind.Value :=
  ((path.bind (document? d)).bind f.valueIn?).bind f.kind.ofToml?

/-- What stands in the place of a value, if anything, is of the kind. -/
def Kind.Fits (k : Kind) (v : Option Toml.Value) : Prop :=
  ∀ x, v = some x → k.ofToml? x ≠ none

/-- The value in the place of one of the kind, or nothing at all if something else stands there. -/
def Kind.optional? : (k : Kind) → Option Toml.Value → Option (Option k.Value)
  | .text => Layer.text?
  | .flag => Layer.flag?

theorem Kind.optional?_eq_some_iff (k : Kind) {v : Option Toml.Value} {y : Option k.Value} :
    k.optional? v = some y ↔ k.Fits v ∧ y = v.bind k.ofToml? := by
  cases v with
  | none => cases k <;> simp [optional?, Layer.text?, Layer.flag?, Fits, eq_comm]
  | some x =>
    cases k <;> cases x <;>
      simp [optional?, Layer.text?, Layer.flag?, Fits, ofToml?, eq_comm]

theorem Layer.colors?_eq_some_iff {v : Option Toml.Value} {y : Option String × Option String} :
    colors? v = some y ↔ (∀ x, v = some x → HoldsColors x) ∧
      Kind.text.Fits (v.bind (Field.colorIn? "unchanged" 0)) ∧
      Kind.text.Fits (v.bind (Field.colorIn? "changed" 1)) ∧
      y = ((v.bind (Field.colorIn? "unchanged" 0)).bind Kind.text.ofToml?,
        (v.bind (Field.colorIn? "changed" 1)).bind Kind.text.ofToml?) := by
  have hpair (u c : Option Toml.Value) :
      (do let a ← text? u; let b ← text? c; return (a, b)) = some y ↔
        Kind.text.Fits u ∧ Kind.text.Fits c ∧
          y = (u.bind Kind.text.ofToml?, c.bind Kind.text.ofToml?) := by
    have hu (a : Option String) := Kind.text.optional?_eq_some_iff (v := u) (y := a)
    have hc (a : Option String) := Kind.text.optional?_eq_some_iff (v := c) (y := a)
    simp only [Kind.optional?] at hu hc
    simp only [Option.bind_eq_bind, Option.bind_eq_some_iff, hu, hc]
    constructor
    · rintro ⟨a, ⟨hfu, rfl⟩, b, ⟨hfc, rfl⟩, h⟩
      cases h
      exact ⟨hfu, hfc, rfl⟩
    · rintro ⟨hfu, hfc, rfl⟩
      exact ⟨_, ⟨hfu, rfl⟩, _, ⟨hfc, rfl⟩, rfl⟩
  cases v with
  | none => simp [colors?, Kind.Fits, eq_comm]
  | some x =>
    cases x with
    | table entries => simpa [colors?, HoldsColors, Field.colorIn?] using hpair _ _
    | array items => simpa [colors?, HoldsColors, Field.colorIn?] using hpair _ _
    | dateTime text => simp [colors?, HoldsColors, Field.colorIn?, Kind.Fits, eq_comm]
    | _ => simp [colors?, HoldsColors]

/-- The layer in a document: every field is read from its own entry. -/
theorem Layer.ofValue?_eq_some_iff {v : Toml.Value} {l : Layer} :
    ofValue? v = some l ↔ (∀ x, v.get? "colors" = some x → HoldsColors x) ∧
      (∀ f : Field, f.kind.Fits (f.valueIn? v)) ∧
      l = ofFields fun f => (f.valueIn? v).bind f.kind.ofToml? := by
  constructor
  · intro h
    obtain ⟨outputDir, h₁, h⟩ := Option.bind_eq_some_iff.mp h
    obtain ⟨dotProgram, h₂, h⟩ := Option.bind_eq_some_iff.mp h
    obtain ⟨fixedNames, h₃, h⟩ := Option.bind_eq_some_iff.mp h
    obtain ⟨keepDot, h₄, h⟩ := Option.bind_eq_some_iff.mp h
    obtain ⟨indentUnit, h₅, h⟩ := Option.bind_eq_some_iff.mp h
    obtain ⟨colors, h₆, h⟩ := Option.bind_eq_some_iff.mp h
    cases h
    obtain ⟨f₁, rfl⟩ := Kind.text.optional?_eq_some_iff.mp h₁
    obtain ⟨f₂, rfl⟩ := Kind.text.optional?_eq_some_iff.mp h₂
    obtain ⟨f₃, rfl⟩ := Kind.flag.optional?_eq_some_iff.mp h₃
    obtain ⟨f₄, rfl⟩ := Kind.flag.optional?_eq_some_iff.mp h₄
    obtain ⟨f₅, rfl⟩ := Kind.text.optional?_eq_some_iff.mp h₅
    obtain ⟨hcolors, hunchanged, hchanged, rfl⟩ := colors?_eq_some_iff.mp h₆
    refine ⟨hcolors, ?_, rfl⟩
    intro f
    cases f with
    | outputDir => exact f₁
    | dotProgram => exact f₂
    | fixedNames => exact f₃
    | keepDot => exact f₄
    | indentUnit => exact f₅
    | unchanged => exact hunchanged
    | changed => exact hchanged
  · rintro ⟨hcolors, hfits, rfl⟩
    have h₁ := Kind.text.optional?_eq_some_iff.mpr ⟨hfits .outputDir, rfl⟩
    have h₂ := Kind.text.optional?_eq_some_iff.mpr ⟨hfits .dotProgram, rfl⟩
    have h₃ := Kind.flag.optional?_eq_some_iff.mpr ⟨hfits .fixedNames, rfl⟩
    have h₄ := Kind.flag.optional?_eq_some_iff.mpr ⟨hfits .keepDot, rfl⟩
    have h₅ := Kind.text.optional?_eq_some_iff.mpr ⟨hfits .indentUnit, rfl⟩
    have h₆ := colors?_eq_some_iff.mpr ⟨hcolors, hfits .unchanged, hfits .changed, rfl⟩
    simp only [Kind.optional?, Field.valueIn?] at h₁ h₂ h₃ h₄ h₅
    simp only [ofValue?, h₁, h₂, h₃, h₄, h₅, h₆]
    rfl

theorem Layer.ofToml?_eq_none_iff {text : String} : ofToml? text = none ↔ Unusable text := by
  cases hread : Toml.readDocument text with
  | none => simp [ofToml?, hread, Unusable.noDocument hread]
  | some v =>
    rw [ofToml?, hread, Option.bind_some]
    constructor
    · intro hnone
      by_contra husable
      have h : ofValue? v = some _ := ofValue?_eq_some_iff.mpr ⟨?_, ?_, rfl⟩
      · rw [hnone] at h
        cases h
      · intro x hx
        by_contra hbad
        exact husable (.colors hread hx hbad)
      · intro f x hx hbad
        exact husable (.entry f hread hx hbad)
    · intro hbad
      rw [Option.eq_none_iff_forall_ne_some]
      intro l hl
      obtain ⟨hcolors, hfits, -⟩ := ofValue?_eq_some_iff.mp hl
      cases hbad with
      | noDocument hnone => rw [hread] at hnone; cases hnone
      | entry f hread' hx hbad =>
        cases hread.symm.trans hread'
        exact hfits f _ hx hbad
      | colors hread' hx hbad =>
        cases hread.symm.trans hread'
        exact hbad (hcolors _ hx)

theorem fileLayer_eq_error_iff {d : Disk} {path : Option String} {x : Failure} :
    fileLayer d path = .error x ↔ ∃ p, path = some p ∧ BadFile d p x := by
  cases path with
  | none => simp [fileLayer]
  | some p =>
    simp only [fileLayer, Option.some.injEq, exists_eq_left']
    constructor
    · intro h
      split at h
      · rename_i hthere
        unfold readLayer at h
        split at h
        · rename_i e hread
          cases h
          exact .unreadable hthere hread
        · rename_i text hread
          split at h
          · cases h
          · rename_i hbad
            cases h
            exact .invalid hthere hread (Layer.ofToml?_eq_none_iff.mp hbad)
      · cases h
    · intro h
      cases h with
      | unreadable hthere hread => rw [if_pos hthere, readLayer, hread]
      | invalid hthere hread hbad =>
        simp only [if_pos hthere, readLayer, hread, Layer.ofToml?_eq_none_iff.mpr hbad]

theorem get_of_fileLayer {d : Disk} {path : Option String} {l : Layer}
    (h : fileLayer d path = .ok l) (f : Field) : l.get f = fileValue? d path f := by
  cases path with
  | none =>
    cases h
    cases f <;> rfl
  | some p =>
    rw [fileLayer] at h
    simp only [fileValue?, Option.bind_some, document?]
    split at h
    · rename_i hthere
      unfold readLayer at h
      split at h
      · cases h
      · rename_i text hread
        split at h
        · rename_i l' hlayer
          cases h
          obtain ⟨v, hdoc, hvalue⟩ := Option.bind_eq_some_iff.mp hlayer
          rw [if_pos hthere, hread, Except.toOption, Option.bind_some, hdoc, Option.bind_some]
          obtain ⟨-, -, rfl⟩ := Layer.ofValue?_eq_some_iff.mp hvalue
          exact Layer.get_ofFields _ f
        · cases h
    · rename_i hthere
      cases h
      rw [if_neg hthere]
      cases f <;> rfl

/-! ## Variables -/

/-- The variable of a field leads to something that is no value of the field, and this is what is
said about it. -/
inductive BadVariable (e : Environment) (f : Field) : Failure → Prop where
  | table {entries : List (String × Variables.Node)}
      (found : (Variables.tree e).get? f.key = some (.table entries)) :
      BadVariable e f (Variables.wrongKind "map" f.kind.name f.key "")
  | sequence (found : (Variables.tree e).get? f.key = some .sequence) :
      BadVariable e f (Variables.wrongKind "sequence" f.kind.name f.key "")
  | text {s : String} (found : (Variables.tree e).get? f.key = some (.text s))
      (bad : f.kind.ofText? s = none) :
      BadVariable e f
        (Variables.wrongKind ("string " ++ Text.shown (Text.lowercase s)) f.kind.name f.key
          " in the environment")

/-- The value that the variable of a field gives. -/
def variableValue? (e : Environment) (f : Field) : Option f.kind.Value :=
  match (Variables.tree e).get? f.key with
  | some (.text s) => f.kind.ofText? s
  | _ => none

/-- What reading a field from the variables comes to, whatever its kind. -/
theorem Kind.readVariable_eq (k : Kind) (n : Variables.Node) (names : List String) :
    k.readVariable n names =
      match n.get? names with
      | none => .ok none
      | some (.text s) =>
        match k.ofText? s with
        | some v => .ok (some v)
        | none =>
          .error (Variables.wrongKind ("string " ++ Text.shown (Text.lowercase s)) k.name names
            " in the environment")
      | some (.table _) => .error (Variables.wrongKind "map" k.name names "")
      | some .sequence => .error (Variables.wrongKind "sequence" k.name names "") := by
  cases k with
  | text => rfl
  | flag =>
    change Variables.flagField n names = _
    unfold Variables.flagField
    rcases n.get? names with _ | ⟨s | entries | _⟩
    · rfl
    · simp only [ofText?]
      cases Variables.flag? (Text.lowercase s) <;> rfl
    · rfl
    · rfl

theorem readVariable_eq_error_iff {e : Environment} {f : Field} {x : Failure} :
    f.kind.readVariable (Variables.tree e) f.key = .error x ↔ BadVariable e f x := by
  rw [Kind.readVariable_eq]
  constructor
  · intro h
    split at h
    · cases h
    · rename_i s hfound
      split at h
      · cases h
      · rename_i hbad
        cases h
        exact .text hfound hbad
    · rename_i hfound
      cases h
      exact .table hfound
    · rename_i hfound
      cases h
      exact .sequence hfound
  · intro h
    cases h with
    | table hfound => simp only [hfound]
    | sequence hfound => simp only [hfound]
    | text hfound hbad => simp only [hfound, hbad]

theorem eq_of_readVariable {e : Environment} {f : Field} {v : Option f.kind.Value}
    (h : f.kind.readVariable (Variables.tree e) f.key = .ok v) : v = variableValue? e f := by
  rw [Kind.readVariable_eq] at h
  unfold variableValue?
  split at h
  · rename_i hfound
    cases h
    rw [hfound]
  · rename_i s hfound
    rw [hfound]
    split at h
    · rename_i hvalue
      cases h
      exact hvalue.symm
    · cases h
  · cases h
  · cases h

/-! ## Sources and their order -/

/-- Where settings come from. -/
inductive Source where
  | globalFile
  | localFile
  | fieldVariable (f : Field)

/-- The sources in the order in which they are asked. -/
def Source.inOrder : List Source :=
  .globalFile :: .localFile :: Field.inOrder.map .fieldVariable

theorem Source.mem_inOrder (source : Source) : source ∈ inOrder := by
  cases source with
  | globalFile => simp [inOrder]
  | localFile => simp [inOrder]
  | fieldVariable f => simp [inOrder, Field.mem_inOrder]

/-- A source is at fault, and this is what is said about it. -/
inductive Source.Bad (e : Environment) (d : Disk) (dir : Option String) :
    Source → Failure → Prop where
  | globalFile {path : String} {x : Failure} (named : globalPath? e = some path)
      (bad : BadFile d path x) : Bad e d dir .globalFile x
  | localFile {path : String} {x : Failure} (named : dir.map localPath = some path)
      (bad : BadFile d path x) : Bad e d dir .localFile x
  | fieldVariable {f : Field} {x : Failure} (bad : BadVariable e f x) :
      Bad e d dir (.fieldVariable f) x

/-- The complaint about the first member of a list that is at fault. -/
inductive FirstOf {α : Type} (bad : α → Failure → Prop) : List α → Failure → Prop where
  | here {a : α} {as : List α} {x : Failure} (h : bad a x) : FirstOf bad (a :: as) x
  | later {a : α} {as : List α} {x : Failure} (fine : ∀ y, ¬ bad a y) (h : FirstOf bad as x) :
      FirstOf bad (a :: as) x

section FirstOf

variable {α β γ : Type} {bad : α → Failure → Prop} {a : α} {as : List α}

theorem FirstOf.exists_bad {x : Failure} (h : FirstOf bad as x) : ∃ a ∈ as, bad a x := by
  induction h with
  | here h => exact ⟨_, List.mem_cons_self, h⟩
  | later _ _ ih =>
    obtain ⟨a, ha, h⟩ := ih
    exact ⟨a, List.mem_cons_of_mem _ ha, h⟩

theorem exists_firstOf {x : Failure} (ha : a ∈ as) (h : bad a x) : ∃ y, FirstOf bad as y := by
  induction as with
  | nil => cases ha
  | cons b as ih =>
    by_cases hb : ∃ y, bad b y
    · obtain ⟨y, hy⟩ := hb
      exact ⟨y, .here hy⟩
    · cases ha with
      | head => exact absurd ⟨x, h⟩ hb
      | tail _ ha =>
        obtain ⟨y, hy⟩ := ih ha
        exact ⟨y, .later (fun z hz => hb ⟨z, hz⟩) hy⟩

theorem not_firstOf_nil {x : Failure} : ¬ FirstOf bad [] x := by
  intro h
  cases h

/-- Asking one source and then the others reports the first that is at fault. -/
theorem bind_eq_error_iff_firstOf {m : Except Failure β} {k : β → Except Failure γ}
    (hm : ∀ {x}, m = .error x ↔ bad a x)
    (hk : ∀ v {x}, k v = .error x ↔ FirstOf bad as x) {x : Failure} :
    (m >>= k) = .error x ↔ FirstOf bad (a :: as) x := by
  cases m with
  | error y =>
    constructor
    · intro h
      cases h
      exact .here (hm.mp rfl)
    · intro h
      cases h with
      | here h =>
        cases hm.mpr h
        rfl
      | later hfine _ => exact absurd (hm.mp rfl) (hfine y)
  | ok v =>
    have hfine (y : Failure) : ¬ bad a y := by
      intro hy
      cases hm.mpr hy
    constructor
    · intro h
      exact .later hfine ((hk v).mp h)
    · intro h
      cases h with
      | here h => exact absurd h (hfine _)
      | later _ h => exact (hk v).mpr h

end FirstOf

/-! ## Loading -/

section Loading

variable {e : Environment} {d : Disk} {dir : Option String}

theorem layer_eq_error_iff {x : Failure} :
    Variables.layer e = .error x ↔
      FirstOf (Source.Bad e d dir) (Field.inOrder.map .fieldVariable) x := by
  -- One step asks for one field; at the end nothing is left to be at fault.
  have hstep (f : Field) {x : Failure} : f.kind.readVariable (Variables.tree e) f.key = .error x ↔
      Source.Bad e d dir (.fieldVariable f) x := by
    rw [readVariable_eq_error_iff]
    exact ⟨.fieldVariable, fun h => by cases h; assumption⟩
  refine bind_eq_error_iff_firstOf (hstep .outputDir) fun _ _ => ?_
  refine bind_eq_error_iff_firstOf (hstep .dotProgram) fun _ _ => ?_
  refine bind_eq_error_iff_firstOf (hstep .fixedNames) fun _ _ => ?_
  refine bind_eq_error_iff_firstOf (hstep .keepDot) fun _ _ => ?_
  refine bind_eq_error_iff_firstOf (hstep .indentUnit) fun _ _ => ?_
  refine bind_eq_error_iff_firstOf (hstep .unchanged) fun _ _ => ?_
  refine bind_eq_error_iff_firstOf (hstep .changed) fun _ _ => ?_
  exact iff_of_false (fun h => by cases h) not_firstOf_nil

/-- **Failures.** Loading reports the first source that is at fault. -/
theorem load_eq_error_iff {x : Failure} :
    load e d dir = .error x ↔ FirstOf (Source.Bad e d dir) Source.inOrder x := by
  have hglobal {x : Failure} : fileLayer d (globalPath? e) = .error x ↔
      Source.Bad e d dir .globalFile x := by
    rw [fileLayer_eq_error_iff]
    exact ⟨fun ⟨_, hp, h⟩ => .globalFile hp h, fun h => by cases h; exact ⟨_, ‹_›, ‹_›⟩⟩
  have hlocal {x : Failure} : fileLayer d (dir.map localPath) = .error x ↔
      Source.Bad e d dir .localFile x := by
    rw [fileLayer_eq_error_iff]
    exact ⟨fun ⟨_, hp, h⟩ => .localFile hp h, fun h => by cases h; exact ⟨_, ‹_›, ‹_›⟩⟩
  refine bind_eq_error_iff_firstOf hglobal fun g x => ?_
  refine bind_eq_error_iff_firstOf hlocal fun l x => ?_
  rw [← layer_eq_error_iff]
  -- Once the variables are read, nothing can fail any more.
  cases Variables.layer e with
  | error y => exact ⟨fun h => by cases h; rfl, fun h => by cases h; rfl⟩
  | ok v => exact iff_of_false (fun h => by cases h) (fun h => by cases h)

theorem bind_eq_ok {α β : Type} {m : Except Failure α} {k : α → Except Failure β} {y : β}
    (h : (m >>= k) = .ok y) : ∃ v, m = .ok v ∧ k v = .ok y := by
  cases m with
  | error x => cases h
  | ok v => exact ⟨v, rfl, h⟩

theorem get_of_layer {l : Layer} (h : Variables.layer e = .ok l) (f : Field) :
    l.get f = variableValue? e f := by
  obtain ⟨outputDir, h₁, h⟩ := bind_eq_ok h
  obtain ⟨dotProgram, h₂, h⟩ := bind_eq_ok h
  obtain ⟨fixedNames, h₃, h⟩ := bind_eq_ok h
  obtain ⟨keepDot, h₄, h⟩ := bind_eq_ok h
  obtain ⟨indentUnit, h₅, h⟩ := bind_eq_ok h
  obtain ⟨unchanged, h₆, h⟩ := bind_eq_ok h
  obtain ⟨changed, h₇, h⟩ := bind_eq_ok h
  cases h
  cases f with
  | outputDir => exact eq_of_readVariable (f := .outputDir) h₁
  | dotProgram => exact eq_of_readVariable (f := .dotProgram) h₂
  | fixedNames => exact eq_of_readVariable (f := .fixedNames) h₃
  | keepDot => exact eq_of_readVariable (f := .keepDot) h₄
  | indentUnit => exact eq_of_readVariable (f := .indentUnit) h₅
  | unchanged => exact eq_of_readVariable (f := .unchanged) h₆
  | changed => exact eq_of_readVariable (f := .changed) h₇

/-- **Values.** Every field has the value of the highest layer that gives it one. -/
theorem get_of_load {s : Settings} (h : load e d dir = .ok s) (f : Field) :
    s.get f = f.finish e
      ((variableValue? e f <|> fileValue? d (dir.map localPath) f <|>
        fileValue? d (globalPath? e) f).getD (Settings.get {} f)) := by
  obtain ⟨globalLayer, hglobal, h⟩ := bind_eq_ok h
  obtain ⟨localLayer, hlocal, h⟩ := bind_eq_ok h
  obtain ⟨fromVariables, hvariables, h⟩ := bind_eq_ok h
  cases h
  rw [get_expandPaths, get_overlay, get_overlay, get_overlay, get_of_fileLayer hglobal,
    get_of_fileLayer hlocal, get_of_layer hvariables]
  cases variableValue? e f <;> cases fileValue? d (dir.map localPath) f <;> rfl

theorem exists_load_eq_error_iff :
    (∃ x, load e d dir = .error x) ↔ ∃ source x, Source.Bad e d dir source x := by
  constructor
  · rintro ⟨x, hx⟩
    obtain ⟨source, -, hbad⟩ := (load_eq_error_iff.mp hx).exists_bad
    exact ⟨source, x, hbad⟩
  · rintro ⟨source, x, hbad⟩
    obtain ⟨y, hy⟩ := exists_firstOf source.mem_inOrder hbad
    exact ⟨y, load_eq_error_iff.mpr hy⟩

theorem exists_load_eq_ok_iff :
    (∃ s, load e d dir = .ok s) ↔ ¬ ∃ source x, Source.Bad e d dir source x := by
  rw [← exists_load_eq_error_iff]
  cases load e d dir <;> simp

end Loading

/-- **Precedence.** Loading fails exactly if a source is at fault, with the complaint about the
first one that is. Otherwise every field has the value of the highest layer that gives it one, the
variables over the file of the directory over the file of the user over the defaults, and the two
paths are expanded. -/
theorem load_takes_highest_layer (e : Environment) (d : Disk) (dir : Option String) :
    ((∃ x, load e d dir = .error x) ↔ ∃ source x, Source.Bad e d dir source x) ∧
    (∀ x, load e d dir = .error x ↔ FirstOf (Source.Bad e d dir) Source.inOrder x) ∧
    (∀ s, load e d dir = .ok s ↔ (¬ ∃ source x, Source.Bad e d dir source x) ∧
      ∀ f, s.get f = f.finish e
        ((variableValue? e f <|> fileValue? d (dir.map localPath) f <|>
          fileValue? d (globalPath? e) f).getD (Settings.get {} f))) := by
  refine ⟨exists_load_eq_error_iff, fun x => load_eq_error_iff, fun s => ⟨?_, ?_⟩⟩
  · intro hs
    exact ⟨exists_load_eq_ok_iff.mp ⟨s, hs⟩, get_of_load hs⟩
  · rintro ⟨hfine, hvalues⟩
    obtain ⟨t, ht⟩ := exists_load_eq_ok_iff.mpr hfine
    have hst : s = t := ext_get fun f => (hvalues f).trans (get_of_load ht f).symm
    rw [hst, ht]

end AstCompare.Settings
