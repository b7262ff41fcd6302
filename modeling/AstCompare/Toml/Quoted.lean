/-!
# Quoted strings in TOML

TOML has four ways to write a string: between single or tripled quotes, which may be double quotes,
where a backslash starts an escape, or apostrophes, where every character stands for itself. Only
the tripled forms hold line feeds, and a line feed directly after the opening quotes does not count.

A string is written in the first form that shows it without escapes other than that of the tab;
failing that, with escapes. Every form can be read back.

## Main definitions

* `Style`, `Style.choose`: the four forms, and which one a text is written in.
* `write`: a text in quotes.
* `readBasic`, `readLiteral`, `readMultiBasic`, `readMultiLiteral`: the text up to the closing
  quotes.
* `readQuoted`: any of the four forms.
-/

namespace AstCompare.Toml

/-! ### Characters -/

/-- Control characters that may not stand in a document as they are: all but the tab. -/
def isControl (c : Char) : Bool :=
  (c.toNat < 0x20 && c != '\t') || c.toNat == 0x7F

/-- A digit of base sixteen, in either case. -/
def hexValue (c : Char) : Option Nat :=
  if c.isDigit then some (c.toNat - 48)
  else if 'a' ≤ c ∧ c ≤ 'f' then some (c.toNat - 87)
  else if 'A' ≤ c ∧ c ≤ 'F' then some (c.toNat - 55)
  else none

/-! ### Writing -/

/-- The four forms of a quoted string. -/
inductive Style where
  | basic
  | literal
  | multiBasic
  | multiLiteral
  deriving DecidableEq, Repr

/-- The length of the longest run of a character, when `run` of them came before. -/
def longestRun (q : Char) (run : Nat) : List Char → Nat
  | [] => run
  | c :: cs => if c = q then longestRun q (run + 1) cs else max run (longestRun q 0 cs)

/-- The form in which a text is written. -/
def Style.choose (cs : List Char) : Style :=
  let control := cs.any fun c => isControl c && c != '\n'
  let newline := cs.contains '\n'
  let backslash := cs.contains '\\'
  if !control && !backslash && !newline && !cs.contains '"' then .basic
  else if !control && !newline && !cs.contains '\'' then .literal
  else if !control && !backslash && longestRun '"' 0 cs ≤ 2 then .multiBasic
  else if !control && longestRun '\'' 0 cs ≤ 2 then .multiLiteral
  else if newline then .multiBasic
  else .basic

/-- A digit of base sixteen in upper case. -/
def hexDigit (n : Nat) : Char :=
  (Nat.digitChar (n % 16)).toUpper

/-- The escape of a character that has to have one. -/
def escapeOf (c : Char) : Option (List Char) :=
  if c = '\x08' then some ['\\', 'b']
  else if c = '\t' then some ['\\', 't']
  else if c = '\n' then some ['\\', 'n']
  else if c = '\x0c' then some ['\\', 'f']
  else if c = '\r' then some ['\\', 'r']
  else if c = '"' then some ['\\', '"']
  else if c = '\\' then some ['\\', '\\']
  else if isControl c then some ['\\', 'u', '0', '0', hexDigit (c.toNat / 16), hexDigit c.toNat]
  else none

/-- The text between double quotes. -/
def escapeBasic : List Char → List Char
  | [] => []
  | c :: cs => (escapeOf c).getD [c] ++ escapeBasic cs

/-- The text between tripled double quotes: line feeds stay, and of quotes in a row every third is
escaped. `quotes` counts those before. -/
def escapeMultiBasic (quotes : Nat) : List Char → List Char
  | [] => []
  | c :: cs =>
    if c = '\n' then c :: escapeMultiBasic 0 cs
    else if c = '"' then
      if quotes < 2 then c :: escapeMultiBasic (quotes + 1) cs
      else '\\' :: c :: escapeMultiBasic 0 cs
    else (escapeOf c).getD [c] ++ escapeMultiBasic 0 cs

/-- What follows the opening of a tripled form: a text with line feeds starts on a line of its
own. -/
def opening (cs : List Char) : List Char :=
  if cs.contains '\n' then ['\n'] else []

/-- A text in quotes of the given form. -/
def writeAs (cs : List Char) : Style → List Char
  | .basic => '"' :: (escapeBasic cs ++ ['"'])
  | .literal => '\'' :: (cs ++ ['\''])
  | .multiBasic =>
    '"' :: '"' :: '"' :: (opening cs ++ (escapeMultiBasic 0 cs ++ ['"', '"', '"']))
  | .multiLiteral => '\'' :: '\'' :: '\'' :: (opening cs ++ (cs ++ ['\'', '\'', '\'']))

/-- A text in quotes. -/
def write (cs : List Char) : List Char :=
  writeAs cs (Style.choose cs)

/-! ### Reading -/

/-- The number that `n` digits of base sixteen stand for, and what follows them. -/
def readHex : Nat → Nat → List Char → Option (Nat × List Char)
  | 0, value, cs => some (value, cs)
  | _ + 1, _, [] => none
  | n + 1, value, c :: cs =>
    match hexValue c with
    | none => none
    | some d => readHex n (value * 16 + d) cs

/-- The character of a code point written with `n` digits. -/
def readCodePoint (n : Nat) (cs : List Char) : Option (Char × List Char) :=
  match readHex n 0 cs with
  | none => none
  | some (value, rest) => if value.isValidChar then some (Char.ofNat value, rest) else none

/-- The character that an escape of one letter stands for. -/
def letterEscape (c : Char) : Option Char :=
  if c = 'b' then some '\x08'
  else if c = 't' then some '\t'
  else if c = 'n' then some '\n'
  else if c = 'f' then some '\x0c'
  else if c = 'r' then some '\r'
  else if c = '"' then some '"'
  else if c = '\\' then some '\\'
  else none

/-- The character that an escape stands for, read after the backslash. -/
def readEscape : List Char → Option (Char × List Char)
  | [] => none
  | c :: cs =>
    match letterEscape c with
    | some e => some (e, cs)
    | none =>
      if c = 'u' then readCodePoint 4 cs
      else if c = 'U' then readCodePoint 8 cs
      else none

theorem length_readHex {n value : Nat} {cs rest : List Char} {v : Nat}
    (h : readHex n value cs = some (v, rest)) : rest.length + n = cs.length := by
  fun_induction readHex n value cs with
  | case1 => simp_all
  | case2 => simp at h
  | case3 => simp at h
  | case4 n value c cs d hd ih => have := ih h; simp; omega

theorem length_readCodePoint {n : Nat} {cs rest : List Char} {c : Char}
    (h : readCodePoint n cs = some (c, rest)) : rest.length ≤ cs.length := by
  unfold readCodePoint at h
  split at h
  · simp at h
  · rename_i value rest' heq
    have := length_readHex heq
    split at h
    · obtain ⟨-, rfl⟩ := by simpa using h
      omega
    · simp at h

theorem length_readEscape {cs rest : List Char} {c : Char}
    (h : readEscape cs = some (c, rest)) : rest.length < cs.length := by
  unfold readEscape at h
  split at h
  · simp at h
  · rename_i a cs
    simp only [List.length_cons]
    split at h
    · obtain ⟨-, rfl⟩ := by simpa using h
      omega
    · split at h
      · have := length_readCodePoint h
        omega
      · split at h
        · have := length_readCodePoint h
          omega
        · simp at h

/-- Puts a character in front of what was read. -/
def before (c : Char) (r : Option (List Char × List Char)) : Option (List Char × List Char) :=
  r.map fun (text, rest) => (c :: text, rest)

/-- Reads up to the closing double quote. -/
def readBasic (cs : List Char) : Option (List Char × List Char) :=
  match cs with
  | [] => none
  | c :: cs =>
    if c = '"' then some ([], cs)
    else if c = '\\' then
      match _h : readEscape cs with
      | none => none
      | some (e, rest) => before e (readBasic rest)
    else if isControl c then none
    else before c (readBasic cs)
termination_by cs.length
decreasing_by
  · have := length_readEscape _h; simp only [List.length_cons]; omega
  · simp only [List.length_cons]; omega

/-- Reads up to the closing apostrophe. -/
def readLiteral : List Char → Option (List Char × List Char)
  | [] => none
  | c :: cs =>
    if c = '\'' then some ([], cs)
    else if isControl c then none
    else before c (readLiteral cs)

/-- Leaves out a line feed, or a carriage return and a line feed, at the beginning. -/
def skipNewline : List Char → List Char
  | '\n' :: cs => cs
  | '\r' :: '\n' :: cs => cs
  | cs => cs

/-- What three closing quotes leave: up to two more quotes directly after them belong to the
text. -/
def closeMulti (q : Char) : List Char → List Char × List Char
  | a :: b :: cs =>
    if a = q ∧ b = q then ([q, q], cs)
    else if a = q then ([q], b :: cs)
    else ([], a :: b :: cs)
  | [a] => if a = q then ([q], []) else ([], [a])
  | [] => ([], [])

/-- Leaves out blanks and line ends, and tells whether a line end was among them. -/
def skipBlankLines (found : Bool) : List Char → Bool × List Char
  | ' ' :: cs => skipBlankLines found cs
  | '\t' :: cs => skipBlankLines found cs
  | '\n' :: cs => skipBlankLines true cs
  | '\r' :: '\n' :: cs => skipBlankLines true cs
  | cs => (found, cs)

theorem length_skipBlankLines (found : Bool) (cs : List Char) :
    (skipBlankLines found cs).2.length ≤ cs.length := by
  fun_induction skipBlankLines found cs <;> simp <;> omega

/-- Reads up to three closing double quotes. A backslash at the end of a line joins the line with
the next character that is not blank. -/
def readMultiBasic (cs : List Char) : Option (List Char × List Char) :=
  match cs with
  | [] => none
  | '"' :: '"' :: '"' :: cs => some (closeMulti '"' cs)
  | '\r' :: '\n' :: cs => before '\n' (readMultiBasic cs)
  | c :: cs =>
    if c = '\n' then before c (readMultiBasic cs)
    else if c = '\\' then
      if (skipBlankLines false cs).1 then readMultiBasic (skipBlankLines false cs).2
      else
        match _h : readEscape cs with
        | none => none
        | some (e, rest) => before e (readMultiBasic rest)
    else if isControl c then none
    else before c (readMultiBasic cs)
termination_by cs.length
decreasing_by
  · simp only [List.length_cons]; omega
  · simp only [List.length_cons]; omega
  · have := length_skipBlankLines false cs; simp only [List.length_cons]; omega
  · have := length_readEscape _h; simp only [List.length_cons]; omega
  · simp only [List.length_cons]; omega

/-- Reads up to three closing apostrophes. -/
def readMultiLiteral : List Char → Option (List Char × List Char)
  | [] => none
  | '\'' :: '\'' :: '\'' :: cs => some (closeMulti '\'' cs)
  | '\r' :: '\n' :: cs => before '\n' (readMultiLiteral cs)
  | c :: cs =>
    if c = '\n' then before c (readMultiLiteral cs)
    else if isControl c then none
    else before c (readMultiLiteral cs)

/-- Reads a string in any of the four forms. -/
def readQuoted : List Char → Option (List Char × List Char)
  | '"' :: '"' :: '"' :: cs => readMultiBasic (skipNewline cs)
  | '"' :: cs => readBasic cs
  | '\'' :: '\'' :: '\'' :: cs => readMultiLiteral (skipNewline cs)
  | '\'' :: cs => readLiteral cs
  | _ => none

end AstCompare.Toml
