import AstCompare.Proofs.QuotedStrings
import AstCompare.Toml.Reader

/-!
# Documents of pairs are read back

A document that is written line by line, a name and its value on each line, is read back as the
table of these pairs; and after a header, as a table within it. What a line has to be is carried by
`Pair`: a name that needs no quotes, and a text that shows the value. So the only thing left to ask
of a document is that no name comes twice in a table.

## Lines and fuel

The reader takes one line after the other, as long as there is fuel for another one. `Reads` hides
that: there is fuel enough if it is as much as the text is long. One lemma per kind of line says how
`Reads` goes back over it, and `Reads.pairs` is the induction over the lines of one table. It does
not matter where in the document that table is, so long as it `Grows`.

## Main definitions

* `Pair`: a line with a name and its value.
* `Reads`: the rest of a document leads from one state of the reader to another.

## Main results

* `readDocument_sections`: a document with pairs, one header and more pairs.
-/

namespace AstCompare.Toml

/-! ## Names -/

/-- A name that needs no quotes. -/
def IsBare (name : List Char) : Prop :=
  name ≠ [] ∧ ∀ c ∈ name, isKeyChar c = true

instance (name : List Char) : Decidable (IsBare name) :=
  decidable_of_iff ((!name.isEmpty && name.all isKeyChar) = true) (by simp [IsBare])

theorem skipBlanks_cons {c : Char} (hspace : c ≠ ' ') (htab : c ≠ '\t') (cs : List Char) :
    skipBlanks (c :: cs) = c :: cs := by
  simp [skipBlanks, hspace, htab]

theorem IsBare.eq_cons {name : List Char} (h : IsBare name) :
    ∃ c cs, name = c :: cs ∧ isKeyChar c = true := by
  obtain ⟨hne, hchars⟩ := h
  cases name with
  | nil => exact absurd rfl hne
  | cons c cs => exact ⟨c, cs, rfl, hchars c List.mem_cons_self⟩

theorem IsBare.skipBlanks_append {name : List Char} (h : IsBare name) (rest : List Char) :
    skipBlanks (name ++ rest) = name ++ rest := by
  obtain ⟨c, cs, rfl, hc⟩ := h.eq_cons
  exact skipBlanks_cons (by rintro rfl; cases hc) (by rintro rfl; cases hc) (cs ++ rest)

theorem readKeyPart_bare {name rest : List Char} (h : IsBare name)
    (hrest : ∀ c ∈ rest.head?, isKeyChar c = false) :
    readKeyPart (name ++ rest) = some (String.ofList name, rest) := by
  have hstop : rest.takeWhile isKeyChar = [] ∧ rest.dropWhile isKeyChar = rest := by
    cases rest with
    | nil => exact ⟨rfl, rfl⟩
    | cons c cs => simp [hrest c rfl]
  have hname : (name ++ rest).takeWhile isKeyChar = name := by
    rw [List.takeWhile_append_of_pos h.2, hstop.1, List.append_nil]
  have hafter : (name ++ rest).dropWhile isKeyChar = rest := by
    rw [List.dropWhile_append_of_pos h.2, hstop.2]
  obtain ⟨c, cs, rfl, hc⟩ := h.eq_cons
  rw [List.cons_append] at hname hafter ⊢
  rw [readKeyPart, hname, hafter]
  · rfl
  · rintro _ ⟨rfl, -⟩
    cases hc
  · rintro _ ⟨rfl, -⟩
    cases hc

/-- A name is read as a key of one part, together with the blanks after it. -/
theorem readKey_bare {name rest : List Char} (h : IsBare name)
    (hrest : ∀ c ∈ rest.head?, isKeyChar c = false) (hdot : (skipBlanks rest).head? ≠ some '.') :
    readKey (name ++ rest) = some ([], String.ofList name, skipBlanks rest) := by
  have hparts : readKeyParts (depthLimit - 1) (name ++ rest) =
      some ([String.ofList name], skipBlanks rest) := by
    rw [depthLimit, readKeyParts, h.skipBlanks_append, readKeyPart_bare h hrest]
    simp only
    split
    · rename_i hblanks
      rw [hblanks] at hdot
      exact absurd rfl hdot
    · rfl
  rw [readKey, hparts]
  rfl

/-! ## Values -/

/-- A text that stands for a value at the end of a line. -/
structure Shows (text : List Char) (v : Value) : Prop where
  start : ∀ rest, skipBlanks (text ++ '\n' :: rest) = text ++ '\n' :: rest
  read : ∀ rest, readValue (depthLimit - 1) (text ++ '\n' :: rest) = some (v, '\n' :: rest)

theorem readValue_quote {q : Char} (hq : q = '"' ∨ q = '\'') (levels : Nat) (cs : List Char) :
    readValue levels (q :: cs) =
      (readQuoted (q :: cs)).map fun (s, rest) => (.string (String.ofList s), rest) := by
  rcases hq with rfl | rfl <;> cases levels <;> rfl

theorem shows_write (s : String) : Shows (write s.toList) (.string s) where
  start rest := by
    obtain ⟨q, cs, hwrite, hq⟩ := write_eq_cons s.toList
    rw [hwrite, List.cons_append]
    rcases hq with rfl | rfl <;> rfl
  read rest := by
    have hread : readQuoted (write s.toList ++ '\n' :: rest) = some (s.toList, '\n' :: rest) :=
      readQuoted_write s.toList ⟨by simp, by simp⟩
    obtain ⟨q, cs, hwrite, hq⟩ := write_eq_cons s.toList
    rw [hwrite, List.cons_append] at hread ⊢
    simp [readValue_quote hq, hread]

theorem shows_flag (b : Bool) : Shows (if b then "true" else "false").toList (.boolean b) := by
  cases b <;> exact ⟨fun _ => rfl, fun _ => rfl⟩

/-! ## Tables -/

theorem put_append {above below : Entries} {name : String} {item : Item}
    (h : above.lookup name = none) :
    Entries.put name item (above ++ below) = above ++ Entries.put name item below := by
  induction above with
  | nil => rfl
  | cons entry above ih =>
    obtain ⟨n, i⟩ := entry
    rw [List.lookup_cons] at h
    split at h
    · cases h
    · rename_i hne
      have hn : ¬ n = name := by
        rintro rfl
        simp at hne
      rw [List.cons_append, Entries.put, if_neg hn, ih h, List.cons_append]

theorem put_of_new {entries : Entries} {name : String} {item : Item}
    (h : entries.lookup name = none) :
    Entries.put name item entries = entries ++ [(name, item)] := by
  have happend : Entries.put name item (entries ++ []) = entries ++ [(name, item)] := put_append h
  rwa [List.append_nil] at happend

theorem lookup_of_nodup {entries : Entries} {names : List String} {name : String}
    (h : (entries.map Prod.fst ++ names).Nodup) (hname : name ∈ names) :
    entries.lookup name = none := by
  rw [List.lookup_eq_none_iff]
  intro e he
  have hne : e.1 ≠ name := (List.nodup_append.mp h).2.2 e.1 (List.mem_map_of_mem he) name hname
  simpa using hne.symm

theorem assign_of_new {entries : Entries} {name : String} (h : entries.lookup name = none)
    (v : Value) :
    assign entries [] name v = some (entries ++ [(name, .value v)]) := by
  simp [assign, changeAt, h, put_of_new h]

/-- The document with these entries in the table in force takes one more of a new name. -/
def Grows (doc : Entries → Document) : Prop :=
  ∀ (entries : Entries) (name : String) (v : Value), entries.lookup name = none →
    assignIn (doc entries).entries (doc entries).current [] name v =
        some (doc (entries ++ [(name, .value v)])).entries ∧
      (doc (entries ++ [(name, .value v)])).current = (doc entries).current

theorem grows_top : Grows fun entries => ⟨entries, []⟩ :=
  fun _ _ v h => ⟨assign_of_new h v, rfl⟩

theorem grows_table {above : Entries} {table : String} (habove : above.lookup table = none) :
    Grows fun entries => ⟨above ++ [(table, .table false false entries)], [table]⟩ := by
  intro entries name v h
  refine ⟨?_, rfl⟩
  have hlookup : (above ++ [(table, Item.table false false entries)]).lookup table =
      some (.table false false entries) := by
    simp [List.lookup_append, habove]
  simp [assignIn, changeAt, hlookup, assign_of_new h, put_append habove, Entries.put]

theorem entriesToValues_append (es fs : Entries) :
    entriesToValues (es ++ fs) = entriesToValues es ++ entriesToValues fs := by
  induction es with
  | nil => rfl
  | cons e es ih =>
    obtain ⟨name, item⟩ := e
    simp only [List.cons_append, entriesToValues, ih]

/-! ## Lines -/

/-- A line with a name and its value. -/
structure Pair where
  name : String
  text : List Char
  value : Value
  bare : IsBare name.toList
  shows : Shows text value

namespace Pair

/-- The characters of the line. -/
def line (p : Pair) : List Char :=
  p.name.toList ++ ' ' :: '=' :: ' ' :: (p.text ++ ['\n'])

/-- What the line enters into the table in force. -/
def entry (p : Pair) : String × Item :=
  (p.name, .value p.value)

/-- A name with a text as its value. -/
def ofText (name s : String) (bare : IsBare name.toList) : Pair :=
  ⟨name, write s.toList, .string s, bare, shows_write s⟩

/-- A name with a truth value. -/
def ofFlag (name : String) (b : Bool) (bare : IsBare name.toList) : Pair :=
  ⟨name, (if b then "true" else "false").toList, .boolean b, bare, shows_flag b⟩

theorem line_append (p : Pair) (rest : List Char) :
    p.line ++ rest = p.name.toList ++ ' ' :: '=' :: ' ' :: (p.text ++ '\n' :: rest) := by
  simp [line]

theorem readPair_line (p : Pair) (rest : List Char) :
    readPair (readValue (depthLimit - 1)) (p.line ++ rest) =
      some (([], p.name, p.value), '\n' :: rest) := by
  have hkey : readKey (p.line ++ rest) =
      some ([], p.name, '=' :: ' ' :: (p.text ++ '\n' :: rest)) := by
    rw [line_append, readKey_bare p.bare (by simp; rfl) (by simp [skipBlanks]),
      String.ofList_toList]
    rfl
  have hblank : skipBlanks (' ' :: (p.text ++ '\n' :: rest)) = p.text ++ '\n' :: rest :=
    p.shows.start rest
  simp only [readPair, hkey, Option.bind_eq_bind, Option.bind_some, hblank, p.shows.read rest]
  rfl

end Pair

theorem readLine_pair {d : Document} {entries : Entries} (p : Pair)
    (h : assignIn d.entries d.current [] p.name p.value = some entries) (rest : List Char) :
    readLine d (p.line ++ rest) = some (⟨entries, d.current⟩, rest) := by
  have hassignment : readAssignment d (p.line ++ rest) = some (⟨entries, d.current⟩, rest) := by
    simp only [readAssignment, p.readPair_line rest, Option.bind_eq_bind, Option.bind_some, h]
    rfl
  -- A name starts like neither a header nor a comment nor an empty line.
  rw [Pair.line_append] at hassignment ⊢
  obtain ⟨c, cs, hname, hc⟩ := p.bare.eq_cons
  rw [hname, List.cons_append] at hassignment ⊢
  rw [readLine, hassignment]
  all_goals
    rintro _ ⟨rfl, -⟩
    cases hc

theorem readLine_header {d : Document} {name : String} (hbare : IsBare name.toList)
    (hnew : d.entries.lookup name = none) (rest : List Char) :
    readLine d ('[' :: (name.toList ++ ']' :: '\n' :: rest)) =
      some (⟨d.entries ++ [(name, .table false false [])], [name]⟩, rest) := by
  have hkey : readKey (name.toList ++ ']' :: '\n' :: rest) =
      some ([], name, ']' :: '\n' :: rest) := by
    rw [readKey_bare hbare (by simp; rfl) (by simp [skipBlanks]), String.ofList_toList]
    rfl
  have hopen : openTable d.entries [] name =
      some (d.entries ++ [(name, .table false false [])]) := by
    simp [openTable, changeAt, hnew, put_of_new hnew]
  obtain ⟨c, cs, hname, hc⟩ := hbare.eq_cons
  rw [readLine]
  rw [hname, List.cons_append] at hkey ⊢
  rw [readHeader, hkey]
  · simp only [Option.bind_eq_bind, Option.bind_some, hopen]
    rfl
  · rintro _ ⟨rfl, -⟩
    cases hc

/-! ## Documents -/

/-- Reading the rest of a document leads from one state to another. -/
def Reads (d : Document) (cs : List Char) (d' : Document) : Prop :=
  ∀ fuel, cs.length ≤ fuel → readLines fuel d cs = some d'

namespace Reads

variable {d d₁ d' : Document} {cs rest : List Char}

theorem nil (d : Document) : Reads d [] d := by
  intro fuel _
  cases fuel <;> rfl

/-- One line more. -/
theorem step (hstart : skipBlanks cs = cs) (hline : readLine d cs = some (d₁, rest))
    (hlt : rest.length < cs.length) (h : Reads d₁ rest d') : Reads d cs d' := by
  intro fuel hfuel
  cases fuel with
  | zero => omega
  | succ fuel =>
    rw [readLines, hstart]
    split
    · simp at hlt
    · simp only [hline]
      exact h fuel (by omega)

theorem newline (h : Reads d rest d') : Reads d ('\n' :: rest) d' :=
  step rfl rfl (by simp) h

theorem header {name : String} (hbare : IsBare name.toList) (hnew : d.entries.lookup name = none)
    (h : Reads ⟨d.entries ++ [(name, .table false false [])], [name]⟩ rest d') :
    Reads d ('[' :: (name.toList ++ ']' :: '\n' :: rest)) d' :=
  step rfl (readLine_header hbare hnew rest) (by simp; omega) h

/-- The lines of one table. No name comes twice, nor one that was there before. -/
theorem pairs {doc : Entries → Document} (hdoc : Grows doc) {ps : List Pair} {entries : Entries}
    (hnames : (entries.map Prod.fst ++ ps.map Pair.name).Nodup)
    (h : Reads (doc (entries ++ ps.map Pair.entry)) rest d') :
    Reads (doc entries) (ps.flatMap Pair.line ++ rest) d' := by
  induction ps generalizing entries with
  | nil => simpa using h
  | cons p ps ih =>
    have hnew : entries.lookup p.name = none := lookup_of_nodup hnames List.mem_cons_self
    obtain ⟨hassign, hcurrent⟩ := hdoc entries p.name p.value hnew
    have hrest : Reads (doc (entries ++ [p.entry])) (ps.flatMap Pair.line ++ rest) d' := by
      apply ih
      · simpa [Pair.entry, List.append_assoc] using hnames
      · simpa [List.append_assoc] using h
    rw [List.flatMap_cons, List.append_assoc]
    refine step ?_ (readLine_pair p hassign _) (by simp [Pair.line]; omega) ?_
    · rw [Pair.line_append]
      exact p.bare.skipBlanks_append _
    · rw [← hcurrent]
      exact hrest

end Reads

theorem entriesToValues_map_entry (ps : List Pair) :
    entriesToValues (ps.map Pair.entry) = ps.map fun p => (p.name, p.value) := by
  induction ps with
  | nil => rfl
  | cons p ps ih =>
    rw [List.map_cons, Pair.entry, entriesToValues, ih, Item.toValue]
    rfl

/-- A document that starts with a line of its own has no byte order mark. -/
theorem skipMark_lines (ps : List Pair) (rest : List Char) :
    skipMark (ps.flatMap Pair.line ++ '\n' :: rest) = ps.flatMap Pair.line ++ '\n' :: rest := by
  cases ps with
  | nil => rfl
  | cons p ps =>
    obtain ⟨c, cs, hname, hc⟩ := p.bare.eq_cons
    rw [List.flatMap_cons, List.append_assoc, Pair.line_append, hname, List.cons_append, skipMark]
    rintro _ ⟨rfl, -⟩
    cases hc

/-- **Documents.** Pairs, a header and more pairs are read as a table of the first with a table of
the others in it. -/
theorem readDocument_sections (top inner : List Pair) (name : String) (hbare : IsBare name.toList)
    (htop : (top.map Pair.name ++ [name]).Nodup) (hinner : (inner.map Pair.name).Nodup) :
    readDocument (String.ofList (top.flatMap Pair.line ++
        ('\n' :: '[' :: (name.toList ++ ']' :: '\n' :: inner.flatMap Pair.line)))) =
      some (.table (top.map (fun p => (p.name, p.value)) ++
        [(name, .table (inner.map fun p => (p.name, p.value)))])) := by
  have hnew : (top.map Pair.entry).lookup name = none := by
    refine lookup_of_nodup ?_ (List.mem_singleton_self name)
    rw [List.map_map]
    exact htop
  have hsection : Reads ⟨top.map Pair.entry ++ [(name, .table false false [])], [name]⟩
      (inner.flatMap Pair.line)
      ⟨top.map Pair.entry ++ [(name, .table false false (inner.map Pair.entry))], [name]⟩ := by
    rw [← List.append_nil (inner.flatMap Pair.line)]
    exact Reads.pairs (grows_table hnew) hinner (.nil _)
  have hreads : Reads {} (top.flatMap Pair.line ++
      ('\n' :: '[' :: (name.toList ++ ']' :: '\n' :: inner.flatMap Pair.line)))
      ⟨top.map Pair.entry ++ [(name, .table false false (inner.map Pair.entry))], [name]⟩ := by
    have hnames : (top.map Pair.name).Nodup := (List.nodup_append.mp htop).1
    exact Reads.pairs grows_top hnames (.newline (.header hbare hnew hsection))
  simp only [readDocument, String.toList_ofList, skipMark_lines]
  rw [hreads _ (Nat.le_refl _), Option.map_some, entriesToValues_append, entriesToValues_map_entry,
    entriesToValues, Item.toValue, entriesToValues_map_entry]
  rfl

end AstCompare.Toml
