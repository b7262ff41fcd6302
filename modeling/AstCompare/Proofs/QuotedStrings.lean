import AstCompare.Toml.Quoted
import Mathlib.Data.List.Basic

/-!
# Quoted strings are read back

Whatever form a text is written in, reading gives the text back and leaves what stands after it.
Nothing is assumed of the text; of what follows only that it does not start with a quote, since the
readers of the tripled forms take up to two more quotes for the end of the text.

## Quotes in a row

In the tripled forms a quote is not a character like the others: whether it belongs to the text is
decided by the two after it. The inductions therefore do not follow the reader, which is ahead of a
quote that it has taken, but keep the quotes of the present run in front of the text. `ClosedBy` is
all that has to be known of a reader for that: three quotes end the text, and a quote that is not
the first of three stands for itself.

## Main definitions

* `Style.Suits`: the texts that a form shows faithfully.
* `ClosedBy`: readers that stop at three quotes.

## Main results

* `suits_choose`: the form that is chosen suits the text.
* `readQuoted_writeAs`: a text in a form that suits it is read back.
* `readQuoted_write`: every text is read back.
-/

namespace AstCompare.Toml

/-! ## Escapes -/

theorem hexValue_hexDigit (n : Nat) : hexValue (hexDigit n) = some (n % 16) := by
  have h : ∀ d < 16, hexValue (Nat.digitChar d).toUpper = some d := by decide
  exact h (n % 16) (Nat.mod_lt n (by decide))

theorem toNat_lt_of_isControl {c : Char} (h : isControl c = true) : c.toNat < 128 := by
  simp only [isControl, Bool.or_eq_true, Bool.and_eq_true, decide_eq_true_eq, beq_iff_eq] at h
  omega

theorem readCodePoint_hexDigit {c : Char} (h : isControl c = true) (rest : List Char) :
    readCodePoint 4 ('0' :: '0' :: hexDigit (c.toNat / 16) :: hexDigit c.toNat :: rest) =
      some (c, rest) := by
  have hlt := toNat_lt_of_isControl h
  have hzero : hexValue '0' = some 0 := by decide
  have hvalue : (((0 * 16 + 0) * 16 + 0) * 16 + c.toNat / 16 % 16) * 16 + c.toNat % 16 =
      c.toNat := by
    omega
  have hvalid : c.toNat.isValidChar := .inl (by omega)
  simp only [readCodePoint, readHex, hzero, hexValue_hexDigit, hvalue, if_pos hvalid,
    Char.ofNat_toNat]

/-- An escape starts with a backslash, and what follows it is read as the character. It does not
start with a blank, so it is not taken for the end of a line. -/
theorem readEscape_of_escapeOf {c : Char} {es : List Char} (h : escapeOf c = some es) :
    ∃ x e, es = '\\' :: x :: e ∧ (∀ rest, readEscape (x :: e ++ rest) = some (c, rest)) ∧
      ∀ rest, skipBlankLines false (x :: e ++ rest) = (false, x :: e ++ rest) := by
  unfold escapeOf at h
  iterate 7
    split at h
    · cases h
      subst c
      exact ⟨_, _, rfl, fun _ => rfl, fun _ => rfl⟩
  split at h
  · rename_i hcontrol
    cases h
    exact ⟨_, _, rfl, readCodePoint_hexDigit hcontrol, fun _ => rfl⟩
  · cases h

/-- A character without an escape stands for itself. -/
theorem plain_of_escapeOf {c : Char} (h : escapeOf c = none) :
    c ≠ '"' ∧ c ≠ '\\' ∧ isControl c = false := by
  unfold escapeOf at h
  split_ifs at h
  simp_all

/-! ## Single quotes -/

@[simp] theorem before_some (c : Char) (text rest : List Char) :
    before c (some (text, rest)) = some (c :: text, rest) := rfl

theorem readBasic_escape (c : Char) (cs : List Char) :
    readBasic ((escapeOf c).getD [c] ++ cs) = before c (readBasic cs) := by
  cases h : escapeOf c with
  | none =>
    obtain ⟨hquote, hbackslash, hcontrol⟩ := plain_of_escapeOf h
    simp only [Option.getD_none, List.cons_append, List.nil_append]
    rw [readBasic, if_neg hquote, if_neg hbackslash, if_neg (by simp [hcontrol])]
  | some es =>
    obtain ⟨x, e, rfl, hread, -⟩ := readEscape_of_escapeOf h
    rw [Option.getD_some, List.cons_append, readBasic, if_neg (by decide), if_pos rfl]
    split
    · rename_i hnone
      cases (hread cs).symm.trans hnone
    · rename_i hsome
      cases (hread cs).symm.trans hsome
      rfl

theorem readBasic_escapeBasic (cs rest : List Char) :
    readBasic (escapeBasic cs ++ '"' :: rest) = some (cs, rest) := by
  induction cs with
  | nil =>
    rw [escapeBasic, List.nil_append, readBasic, if_pos rfl]
  | cons c cs ih =>
    rw [escapeBasic, List.append_assoc, readBasic_escape, ih, before_some]

theorem readLiteral_append {cs : List Char} (h : ∀ c ∈ cs, c ≠ '\'' ∧ isControl c = false)
    (rest : List Char) : readLiteral (cs ++ '\'' :: rest) = some (cs, rest) := by
  induction cs with
  | nil => rfl
  | cons c cs ih =>
    obtain ⟨hquote, hcontrol⟩ := h c List.mem_cons_self
    rw [List.cons_append, readLiteral, if_neg hquote, if_neg (by simp [hcontrol]),
      ih fun x hx => h x (List.mem_cons_of_mem c hx), before_some]

/-! ## Tripled quotes -/

/-- The reader stops at three quotes `q`, and takes a quote that is not followed by two more for a
part of the text. -/
structure ClosedBy (q : Char) (read : List Char → Option (List Char × List Char)) : Prop where
  close : ∀ cs, read (q :: q :: q :: cs) = some (closeMulti q cs)
  quote : ∀ cs, ¬ [q, q] <+: cs → read (q :: cs) = before q (read cs)

theorem closeMulti_replicate {q : Char} {n : Nat} (hn : n ≤ 2) {rest : List Char}
    (hrest : rest.head? ≠ some q) :
    closeMulti q (List.replicate n q ++ rest) = (List.replicate n q, rest) := by
  match n, rest with
  | 0, [] => rfl
  | 0, [a] => simp_all [closeMulti]
  | 0, a :: b :: rest => simp_all [closeMulti]
  | 1, [] => simp [closeMulti]
  | 1, a :: rest => simp_all [closeMulti]
  | 2, rest => simp [closeMulti, List.replicate]

namespace ClosedBy

variable {q : Char} {read : List Char → Option (List Char × List Char)}

/-- Up to two quotes at the end of a text are told from those that end it. -/
theorem read_close (h : ClosedBy q read) {n : Nat} (hn : n ≤ 2) {rest : List Char}
    (hrest : rest.head? ≠ some q) :
    read (List.replicate n q ++ (q :: q :: q :: rest)) = some (List.replicate n q, rest) := by
  have hquotes : List.replicate n q ++ (q :: q :: q :: rest) =
      q :: q :: q :: (List.replicate n q ++ rest) := by
    have hcomm : List.replicate n q ++ List.replicate 3 q =
        List.replicate 3 q ++ List.replicate n q := by
      rw [List.replicate_append_replicate, List.replicate_append_replicate, Nat.add_comm]
    simpa [List.replicate] using congrArg (· ++ rest) hcomm
  rw [hquotes, h.close, closeMulti_replicate hn hrest]

/-- Up to two quotes before something else are a part of the text. -/
theorem read_run (h : ClosedBy q read) {n : Nat} (hn : n ≤ 2) {cs text rest : List Char}
    (hcs : cs.head? ≠ some q) (hread : read cs = some (text, rest)) :
    read (List.replicate n q ++ cs) = some (List.replicate n q ++ text, rest) := by
  have hfew : ∀ m < 2, ¬ [q, q] <+: List.replicate m q ++ cs := by
    intro m hm hlead
    match m, cs with
    | 0, [] => simp at hlead
    | 0, c :: cs => simp_all
    | 1, [] => simp at hlead
    | 1, c :: cs => simp_all
  induction n with
  | zero => exact hread
  | succ n ih =>
    rw [List.replicate_succ, List.cons_append, h.quote _ (hfew n (by omega)), ih (by omega)]
    rfl

end ClosedBy

/-- A character that starts neither the closing quotes nor a line end of two characters. -/
theorem readMultiLiteral_of_single {c : Char} {cs : List Char}
    (hclose : c = '\'' → ¬ ['\'', '\''] <+: cs) (hreturn : c ≠ '\r') :
    readMultiLiteral (c :: cs) =
      if c = '\n' then before c (readMultiLiteral cs)
      else if isControl c then none
      else before c (readMultiLiteral cs) := by
  rw [readMultiLiteral]
  · rintro cs' hc rfl
    exact hclose hc ⟨cs', rfl⟩
  · intro _ hc
    exact absurd hc hreturn

theorem closedBy_readMultiLiteral : ClosedBy '\'' readMultiLiteral where
  close cs := by rw [readMultiLiteral]
  quote cs h := by
    rw [readMultiLiteral_of_single (fun _ => h) (by decide), if_neg (by decide), if_neg (by decide)]

/-- A character that starts neither the closing quotes nor a line end of two characters. -/
theorem readMultiBasic_of_single {c : Char} {cs : List Char}
    (hclose : c = '"' → ¬ ['"', '"'] <+: cs) (hreturn : c ≠ '\r') :
    readMultiBasic (c :: cs) =
      if c = '\n' then before c (readMultiBasic cs)
      else if c = '\\' then
        if (skipBlankLines false cs).1 then readMultiBasic (skipBlankLines false cs).2
        else (readEscape cs).bind fun e => before e.1 (readMultiBasic e.2)
      else if isControl c then none
      else before c (readMultiBasic cs) := by
  rw [readMultiBasic]
  · congr 3
    split <;> rename_i hread <;> rw [hread] <;> rfl
  · rintro cs' hc rfl
    exact hclose hc ⟨cs', rfl⟩
  · intro _ hc
    exact absurd hc hreturn

theorem closedBy_readMultiBasic : ClosedBy '"' readMultiBasic where
  close cs := by rw [readMultiBasic]
  quote cs h := by
    rw [readMultiBasic_of_single (fun _ => h) (by decide), if_neg (by decide), if_neg (by decide),
      if_neg (by decide)]

theorem readMultiLiteral_cons {c : Char} (hc : c = '\n' ∨ (c ≠ '\'' ∧ isControl c = false))
    (cs : List Char) : readMultiLiteral (c :: cs) = before c (readMultiLiteral cs) := by
  rcases hc with rfl | ⟨hquote, hcontrol⟩
  · rw [readMultiLiteral_of_single (fun h => absurd h (by decide)) (by decide), if_pos rfl]
  · have hreturn : c ≠ '\r' := by
      rintro rfl
      cases hcontrol
    rw [readMultiLiteral_of_single (fun h => absurd h hquote) hreturn]
    split
    · rfl
    · rw [if_neg (by simp [hcontrol])]

/-- The apostrophes of the present run, `n` of them, are kept in front. -/
theorem readMultiLiteral_append {cs rest : List Char} {n : Nat} (hrest : rest.head? ≠ some '\'')
    (hplain : ∀ c ∈ cs, c = '\n' ∨ isControl c = false) (hrun : longestRun '\'' n cs ≤ 2) :
    readMultiLiteral (List.replicate n '\'' ++ (cs ++ '\'' :: '\'' :: '\'' :: rest)) =
      some (List.replicate n '\'' ++ cs, rest) := by
  induction cs generalizing n with
  | nil =>
    rw [List.append_nil]
    exact closedBy_readMultiLiteral.read_close hrun hrest
  | cons c cs ih =>
    have hplain' : ∀ x ∈ cs, x = '\n' ∨ isControl x = false :=
      fun x hx => hplain x (List.mem_cons_of_mem c hx)
    rw [longestRun] at hrun
    split at hrun
    · -- The run goes on.
      subst c
      have := ih hplain' hrun
      simpa [List.replicate_succ', List.append_assoc] using this
    · -- The run ends here.
      rename_i hquote
      have hrest' := ih hplain' (n := 0) (by omega)
      refine closedBy_readMultiLiteral.read_run (by omega) (by simpa using hquote) ?_
      have hc : c = '\n' ∨ (c ≠ '\'' ∧ isControl c = false) :=
        (hplain c List.mem_cons_self).imp id fun h => ⟨hquote, h⟩
      rw [List.cons_append, readMultiLiteral_cons hc]
      simp only [List.replicate_zero, List.nil_append] at hrest'
      rw [hrest', before_some]

theorem readMultiBasic_newline (cs : List Char) :
    readMultiBasic ('\n' :: cs) = before '\n' (readMultiBasic cs) := by
  rw [readMultiBasic_of_single (fun h => absurd h (by decide)) (by decide), if_pos rfl]

theorem readMultiBasic_backslash {x c : Char} {e rest : List Char}
    (hread : readEscape (x :: e) = some (c, rest))
    (hblank : skipBlankLines false (x :: e) = (false, x :: e)) :
    readMultiBasic ('\\' :: x :: e) = before c (readMultiBasic rest) := by
  rw [readMultiBasic_of_single (fun h => absurd h (by decide)) (by decide), if_neg (by decide),
    if_pos rfl, hblank, if_neg (by simp), hread, Option.bind_some]

theorem readMultiBasic_escape {c : Char} (hnewline : c ≠ '\n') (hquote : c ≠ '"') (cs : List Char) :
    readMultiBasic ((escapeOf c).getD [c] ++ cs) = before c (readMultiBasic cs) := by
  cases h : escapeOf c with
  | none =>
    obtain ⟨-, hbackslash, hcontrol⟩ := plain_of_escapeOf h
    have hreturn : c ≠ '\r' := by
      rintro rfl
      cases hcontrol
    simp only [Option.getD_none, List.cons_append, List.nil_append]
    rw [readMultiBasic_of_single (fun h => absurd h hquote) hreturn, if_neg hnewline,
      if_neg hbackslash, if_neg (by simp [hcontrol])]
  | some es =>
    obtain ⟨x, e, rfl, hread, hblank⟩ := readEscape_of_escapeOf h
    exact readMultiBasic_backslash (hread cs) (hblank cs)

theorem head?_escape_ne_quote {c : Char} (hquote : c ≠ '"') (cs : List Char) :
    ((escapeOf c).getD [c] ++ cs).head? ≠ some '"' := by
  cases h : escapeOf c with
  | none => simpa using hquote
  | some es =>
    obtain ⟨x, e, rfl, -⟩ := readEscape_of_escapeOf h
    simp

/-- The quotes of the present run, `n` of them, are kept in front. -/
theorem readMultiBasic_escapeMultiBasic {cs rest : List Char} {n : Nat}
    (hrest : rest.head? ≠ some '"') (hn : n ≤ 2) :
    readMultiBasic (List.replicate n '"' ++ (escapeMultiBasic n cs ++ '"' :: '"' :: '"' :: rest)) =
      some (List.replicate n '"' ++ cs, rest) := by
  induction cs generalizing n with
  | nil =>
    rw [List.append_nil]
    exact closedBy_readMultiBasic.read_close hn hrest
  | cons c cs ih =>
    have htail := ih (n := 0) (by omega)
    simp only [List.replicate_zero, List.nil_append] at htail
    rw [escapeMultiBasic]
    split
    · subst c
      refine closedBy_readMultiBasic.read_run hn (by simp) ?_
      rw [List.cons_append, readMultiBasic_newline, htail, before_some]
    · rename_i hnewline
      split
      · subst c
        split
        · -- The run goes on.
          have := ih (n := n + 1) (by omega)
          simpa [List.replicate_succ', List.append_assoc] using this
        · -- The third quote of the run is escaped.
          refine closedBy_readMultiBasic.read_run hn (by simp) ?_
          rw [List.cons_append, List.cons_append, readMultiBasic_backslash rfl rfl, htail,
            before_some]
      · rename_i hquote
        rw [List.append_assoc]
        refine closedBy_readMultiBasic.read_run hn (head?_escape_ne_quote hquote _) ?_
        rw [readMultiBasic_escape hnewline hquote, htail, before_some]

/-! ## The line feed after the opening -/

theorem skipNewline_eq_self {cs : List Char} (hnewline : cs.head? ≠ some '\n')
    (hreturn : cs.head? ≠ some '\r') : skipNewline cs = cs := by
  unfold skipNewline
  split
  · exact absurd rfl hnewline
  · exact absurd rfl hreturn
  · rfl

/-- The line feed that was put in front of a text is the one that does not count. -/
theorem skipNewline_opening {cs body : List Char} (hreturn : body.head? ≠ some '\r')
    (hnewline : body.head? = some '\n' → '\n' ∈ cs) : skipNewline (opening cs ++ body) = body := by
  unfold opening
  split
  · rfl
  · rename_i hnone
    rw [List.contains_iff_mem] at hnone
    exact skipNewline_eq_self (fun h => hnone (hnewline h)) hreturn

theorem head?_escapeMultiBasic {cs rest : List Char} {x : Char}
    (h : (escapeMultiBasic 0 cs ++ '"' :: rest).head? = some x) (hx : isControl x = true) :
    x = '\n' ∧ '\n' ∈ cs := by
  cases cs with
  | nil =>
    cases h
    cases hx
  | cons c cs =>
    rw [escapeMultiBasic] at h
    split at h
    · cases h
      exact ⟨‹_›, by simp_all⟩
    · split at h
      · rename_i hquote
        subst hquote
        cases h
        cases hx
      · cases hescape : escapeOf c with
        | none =>
          rw [hescape] at h
          cases h
          cases (plain_of_escapeOf hescape).2.2.symm.trans hx
        | some es =>
          obtain ⟨y, e, rfl, -⟩ := readEscape_of_escapeOf hescape
          rw [hescape] at h
          cases h
          cases hx

/-! ## All forms -/

/-- A form shows a text faithfully. With escapes every text can be shown. Without them, apostrophes
end the text, so there may be none of them or at most two in a row; two apostrophes with nothing
between them could be the beginning of three. -/
def Style.Suits (cs : List Char) : Style → Prop
  | .basic | .multiBasic => True
  | .literal => cs ≠ [] ∧ ∀ c ∈ cs, c ≠ '\'' ∧ isControl c = false
  | .multiLiteral => longestRun '\'' 0 cs ≤ 2 ∧ ∀ c ∈ cs, c = '\n' ∨ isControl c = false

theorem suits_choose (cs : List Char) : (Style.choose cs).Suits cs := by
  have hplain (h : (!cs.any fun c => isControl c && c != '\n') = true) :
      ∀ c ∈ cs, c = '\n' ∨ isControl c = false := by
    intro c hc
    by_cases hnewline : c = '\n'
    · exact .inl hnewline
    · simp only [Bool.not_eq_true', List.any_eq_false, Bool.and_eq_true, bne_iff_ne] at h
      exact .inr (by simpa [hnewline] using h c hc)
  unfold Style.choose
  simp only
  split
  · trivial
  · rename_i hbasic
    split
    · rename_i hliteral
      simp only [Bool.and_eq_true, Bool.not_eq_true', List.contains_eq_mem, decide_eq_false_iff_not]
        at hliteral
      obtain ⟨⟨hcontrol, hnewline⟩, hquote⟩ := hliteral
      refine ⟨?_, fun c hc => ⟨?_, ?_⟩⟩
      · -- Without characters there is nothing that the first form could not show.
        rintro rfl
        exact hbasic rfl
      · rintro rfl
        exact hquote hc
      · refine (hplain (by simp [hcontrol]) c hc).resolve_left ?_
        rintro rfl
        exact hnewline hc
    · split
      · trivial
      · split
        · rename_i hmulti
          simp only [Bool.and_eq_true, decide_eq_true_eq] at hmulti
          exact ⟨hmulti.2, hplain hmulti.1⟩
        · split <;> trivial

/-- What follows a string does not start with a quote. -/
def NoQuote (rest : List Char) : Prop :=
  rest.head? ≠ some '"' ∧ rest.head? ≠ some '\''

theorem readQuoted_basic {cs rest : List Char} (hrest : NoQuote rest) :
    readQuoted (writeAs cs .basic ++ rest) = some (cs, rest) := by
  have happend : writeAs cs .basic ++ rest = '"' :: (escapeBasic cs ++ '"' :: rest) := by
    simp [writeAs]
  rw [happend, readQuoted, readBasic_escapeBasic]
  -- It is not the beginning of the tripled form.
  intro x h
  cases cs with
  | nil =>
    cases h
    exact hrest.1 rfl
  | cons c cs =>
    rw [escapeBasic, List.append_assoc] at h
    by_cases hquote : c = '"'
    · subst c
      cases h
    · exact head?_escape_ne_quote hquote _ (congrArg List.head? h)

theorem readQuoted_literal {cs rest : List Char} (hcs : Style.literal.Suits cs) :
    readQuoted (writeAs cs .literal ++ rest) = some (cs, rest) := by
  have happend : writeAs cs .literal ++ rest = '\'' :: (cs ++ '\'' :: rest) := by
    simp [writeAs]
  rw [happend, readQuoted, readLiteral_append hcs.2]
  intro x h
  obtain ⟨hne, hplain⟩ := hcs
  cases cs with
  | nil => exact hne rfl
  | cons c cs =>
    rw [List.cons_append, List.cons.injEq] at h
    exact (hplain c List.mem_cons_self).1 h.1

theorem readQuoted_multiBasic {cs rest : List Char} (hrest : NoQuote rest) :
    readQuoted (writeAs cs .multiBasic ++ rest) = some (cs, rest) := by
  have happend : writeAs cs .multiBasic ++ rest =
      '"' :: '"' :: '"' ::
        (opening cs ++ (escapeMultiBasic 0 cs ++ '"' :: '"' :: '"' :: rest)) := by
    simp [writeAs]
  rw [happend, readQuoted, skipNewline_opening]
  · exact readMultiBasic_escapeMultiBasic (n := 0) hrest.1 (by decide)
  · intro h
    cases (head?_escapeMultiBasic h rfl).1
  · intro h
    exact (head?_escapeMultiBasic h rfl).2

theorem readQuoted_multiLiteral {cs rest : List Char} (hcs : Style.multiLiteral.Suits cs)
    (hrest : NoQuote rest) : readQuoted (writeAs cs .multiLiteral ++ rest) = some (cs, rest) := by
  have happend : writeAs cs .multiLiteral ++ rest =
      '\'' :: '\'' :: '\'' :: (opening cs ++ (cs ++ '\'' :: '\'' :: '\'' :: rest)) := by
    simp [writeAs]
  obtain ⟨hrun, hplain⟩ := hcs
  rw [happend, readQuoted, skipNewline_opening]
  · exact readMultiLiteral_append (n := 0) hrest.2 hplain hrun
  · cases cs with
    | nil => simp
    | cons c cs =>
      rintro h
      cases h
      cases hplain _ List.mem_cons_self with
      | inl h => cases h
      | inr h => cases h
  · cases cs with
    | nil => simp
    | cons c cs =>
      intro h
      cases h
      exact List.mem_cons_self

theorem readQuoted_writeAs {cs rest : List Char} {style : Style} (hcs : style.Suits cs)
    (hrest : NoQuote rest) : readQuoted (writeAs cs style ++ rest) = some (cs, rest) := by
  cases style with
  | basic => exact readQuoted_basic hrest
  | literal => exact readQuoted_literal hcs
  | multiBasic => exact readQuoted_multiBasic hrest
  | multiLiteral => exact readQuoted_multiLiteral hcs hrest

/-- **Quoting.** Every text in quotes is read back, whatever form it is written in. -/
theorem readQuoted_write (cs : List Char) {rest : List Char} (hrest : NoQuote rest) :
    readQuoted (write cs ++ rest) = some (cs, rest) :=
  readQuoted_writeAs (suits_choose cs) hrest

/-- What is written starts with a quote. -/
theorem write_eq_cons (cs : List Char) : ∃ q rest, write cs = q :: rest ∧ (q = '"' ∨ q = '\'') := by
  unfold write
  cases Style.choose cs with
  | basic => exact ⟨_, _, rfl, .inl rfl⟩
  | literal => exact ⟨_, _, rfl, .inr rfl⟩
  | multiBasic => exact ⟨_, _, rfl, .inl rfl⟩
  | multiLiteral => exact ⟨_, _, rfl, .inr rfl⟩

end AstCompare.Toml
