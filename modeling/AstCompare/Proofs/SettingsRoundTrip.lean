import AstCompare.Proofs.DiskFiles
import AstCompare.Proofs.SettingsLayers
import AstCompare.Proofs.TomlDocuments

/-!
# Settings that are shown can be loaded

The text of some settings is a settings file that gives every field the value it has. So it reads
back as the same settings, and where it is the only source, loading gives these settings with their
paths expanded.

Writing and reading take different ways. What is written is all fields at once; what is read is a
layer, in which any field may be missing, and which is laid over the defaults afterwards. They meet
in the pairs of `topPairs` and `colorPairs`: the text consists of their lines, and reading gives
back their values.

## Main results

* `layer_toToml`: the text gives every field its value.
* `toToml_is_settings_file`: reading the text, and loading it.
-/

namespace AstCompare.Settings

open Toml (Pair IsBare)

/-! ## The text -/

/-- The lines before the header. -/
def topPairs (s : Settings) : List Pair :=
  [.ofText "output_dir" s.outputDir (by decide), .ofText "dot_program" s.dotProgram (by decide),
    .ofFlag "fixed_names" s.fixedNames (by decide), .ofFlag "keep_dot" s.keepDot (by decide),
    .ofText "indent_unit" s.indentUnit (by decide)]

/-- The lines after the header. -/
def colorPairs (s : Settings) : List Pair :=
  [.ofText "unchanged" s.colors.unchanged (by decide),
    .ofText "changed" s.colors.changed (by decide)]

theorem toList_textLine (name value : String) (bare : IsBare name.toList) :
    (textLine name value).toList = (Pair.ofText name value bare).line := by
  simp [textLine, Pair.ofText, Pair.line]

theorem toList_flagLine (name : String) (value : Bool) (bare : IsBare name.toList) :
    (flagLine name value).toList = (Pair.ofFlag name value bare).line := by
  simp [flagLine, Pair.ofFlag, Pair.line]

/-- The text of settings is made of the lines of its pairs. -/
theorem toToml_eq (s : Settings) :
    s.toToml = String.ofList (s.topPairs.flatMap Pair.line ++
      ('\n' :: '[' :: ("colors".toList ++ ']' :: '\n' :: s.colorPairs.flatMap Pair.line))) := by
  rw [← String.toList_inj, String.toList_ofList]
  simp only [toToml, String.toList_append]
  rw [toList_textLine "output_dir" _ (by decide), toList_textLine "dot_program" _ (by decide),
    toList_flagLine "fixed_names" _ (by decide), toList_flagLine "keep_dot" _ (by decide),
    toList_textLine "indent_unit" _ (by decide), toList_textLine "unchanged" _ (by decide),
    toList_textLine "changed" _ (by decide)]
  simp [topPairs, colorPairs]

/-- The layer that gives every field its value. -/
def toLayer (s : Settings) : Layer :=
  .ofFields fun f => some (s.get f)

/-- Every field of the settings is in their text. -/
theorem layer_toToml (s : Settings) : Layer.ofToml? s.toToml = some s.toLayer := by
  have htop : (s.topPairs.map Pair.name ++ ["colors"]).Nodup := by
    simp [topPairs, Pair.ofText, Pair.ofFlag]
  have hcolors : (s.colorPairs.map Pair.name).Nodup := by
    simp [colorPairs, Pair.ofText]
  rw [Layer.ofToml?, toToml_eq, Toml.readDocument_sections _ _ _ (by decide) htop hcolors]
  rfl

theorem overlay_toLayer (s t : Settings) : t.overlay s.toLayer = s :=
  ext_get fun f => by simp [toLayer]

/-! ## The only source -/

theorem tree_of_unset {e : Environment}
    (h : ∀ b ∈ e.bindings, ¬ Variables.lead <+: (Text.lowercase b.1).toList) :
    Variables.tree e = .table [] := by
  have hkey : ∀ b ∈ e.bindings, Variables.key b.1 = none := by
    intro b hb
    rw [Variables.key, if_neg]
    rw [List.isPrefixOf_iff_prefix]
    exact h b hb
  unfold Variables.tree
  generalize e.bindings = bindings at hkey
  induction bindings with
  | nil => rfl
  | cons b bs ih =>
    obtain ⟨name, value⟩ := b
    have hname : Variables.key name = none := hkey (name, value) List.mem_cons_self
    rw [List.foldl_cons]
    simp only [hname]
    exact ih fun x hx => hkey x (List.mem_cons_of_mem _ hx)

theorem layer_of_unset {e : Environment}
    (h : ∀ b ∈ e.bindings, ¬ Variables.lead <+: (Text.lowercase b.1).toList) :
    Variables.layer e = .ok {} := by
  rw [Variables.layer, tree_of_unset h]
  rfl

theorem fileLayer_of_missing {d : Disk} {path : Option String}
    (h : ∀ p, path = some p → d.hasEntry p = false) : fileLayer d path = .ok {} := by
  cases path with
  | none => rfl
  | some p => rw [fileLayer, h p rfl]; rfl

theorem hasEntry_of_readText {d : Disk} {path text : String} (h : d.readText path = .ok text) :
    d.hasEntry path = true := by
  unfold Disk.hasEntry
  split
  · rfl
  · rename_i x hstat
    rw [Disk.readText, Disk.read, hstat] at h
    cases h

theorem fileLayer_of_readText {d : Disk} {path : String} {s : Settings}
    (h : d.readText path = .ok s.toToml) : fileLayer d (some path) = .ok s.toLayer := by
  rw [fileLayer, if_pos (hasEntry_of_readText h), readLayer, h]
  simp only [layer_toToml]

/-- **Round trip.** The text of settings is a settings file that gives every field its value, so it
reads back as these settings. Stored in a directory, with no file of the user and no variable that
counts, it is loaded as these settings with their paths expanded. -/
theorem toToml_is_settings_file (s : Settings) :
    (∃ l, Layer.ofToml? s.toToml = some l ∧ ∀ f, l.get f = some (s.get f)) ∧
    ofToml? s.toToml = some s ∧
    ∀ (e : Environment) (d : Disk) (dir : String),
      d.readText (localPath dir) = .ok s.toToml →
      (∀ path, globalPath? e = some path → d.hasEntry path = false) →
      (∀ b ∈ e.bindings, ¬ Variables.lead <+: (Text.lowercase b.1).toList) →
      load e d (some dir) =
        .ok { s with outputDir := expand e s.outputDir, dotProgram := expand e s.dotProgram } := by
  refine ⟨⟨s.toLayer, layer_toToml s, fun f => Layer.get_ofFields _ f⟩, ?_, ?_⟩
  · rw [ofToml?, layer_toToml, Option.map_some, overlay_toLayer]
  · intro e d dir hlocal hglobal hunset
    have hlayers : load e d (some dir) =
        .ok (expandPaths e (((overlay {} {}).overlay s.toLayer).overlay {})) := by
      rw [load, fileLayer_of_missing hglobal, Option.map_some, fileLayer_of_readText hlocal,
        layer_of_unset hunset]
      rfl
    rw [hlayers, overlay_toLayer]
    rfl

namespace Example

/-- Settings with texts that are hard to write: quotes of both kinds in a row and at the ends,
backslashes, line feeds and control characters. -/
def awkward : Settings where
  outputDir := "$OUT/\"a\" 'b'"
  dotProgram := "~\\dot\x00"
  fixedNames := true
  indentUnit := "\n\t\"\"\"\"\r"
  colors := ⟨"''\n\\''", "\"\n'''\""⟩

/-- A working directory with their text as its settings file. -/
def stored : Disk where
  entries := [(["work", ".astviz.toml"], .file 0 (.ofText awkward.toToml) { mode := 0o644 }),
    (["work"], .directory {})]
  cwd := ["work"]
  nextId := 1

/-- A user without a settings file. -/
def user : Environment where
  bindings := [("HOME", "/work"), ("OUT", "pictures")]

end Example

theorem toToml_is_settings_file_awkward :
    ofToml? Example.awkward.toToml = some Example.awkward ∧
    load Example.user Example.stored (some ".") =
      .ok { Example.awkward with
        outputDir := expand Example.user Example.awkward.outputDir
        dotProgram := expand Example.user Example.awkward.dotProgram } := by
  obtain ⟨-, hread, hload⟩ := toToml_is_settings_file Example.awkward
  have hstored : Example.stored.readText (localPath ".") = .ok Example.awkward.toToml :=
    Disk.readText_of_read rfl
  have hmissing : ∀ path, globalPath? Example.user = some path →
      Example.stored.hasEntry path = false := by
    intro path hpath
    have hglobal : globalPath? Example.user = some "/work/.config/astviz/astviz.toml" := by decide
    cases hglobal.symm.trans hpath
    rfl
  exact ⟨hread, hload Example.user Example.stored "." hstored hmissing (by decide)⟩

end AstCompare.Settings
