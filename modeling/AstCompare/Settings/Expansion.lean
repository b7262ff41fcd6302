import AstCompare.Environment
import AstCompare.Text.Alphanumeric

/-!
# Expansion of paths

A path in the settings may refer to variables: by a dollar sign and a name, or by a name in braces
with or without a default. Two dollar signs stand for one, and a dollar sign that starts neither
stands for itself, as does an opening brace that is never closed. Values and defaults are taken as
they are. If one reference cannot be resolved, the whole text stays as it is.

After that, a tilde at the beginning, alone or before a slash, stands for the home directory. A
tilde that came out of a variable stands for itself.

## Main definitions

* `Expansion.Piece`, `Expansion.pieces`: a text as literal pieces and references.
* `Expansion.substitute?`: the text with its references resolved, all of them or none.
* `expand`: the expanded text.
-/

namespace AstCompare.Settings

namespace Expansion

/-- A part of a text: characters, or a reference to a variable with its default. -/
inductive Piece where
  | literal (cs : List Char)
  | ref (name : List Char) (default : Option (List Char))
  deriving DecidableEq, Repr

/-- A character of a name without braces. -/
def isNameChar (c : Char) : Bool :=
  Text.isAlphanumeric c || c == '_'

/-- The text before and after the first closing brace. -/
def closing : List Char → Option (List Char × List Char)
  | [] => none
  | c :: cs =>
    if c = '\x7d' then some ([], cs) else (closing cs).map fun (inner, rest) => (c :: inner, rest)

theorem length_closing {cs inner rest : List Char} (h : closing cs = some (inner, rest)) :
    rest.length < cs.length := by
  induction cs generalizing inner with
  | nil => simp [closing] at h
  | cons c cs ih =>
    unfold closing at h
    split at h
    · obtain ⟨-, rfl⟩ := by simpa using h
      simp
    · obtain ⟨⟨i, r⟩, hi, hr⟩ := Option.map_eq_some_iff.1 h
      obtain ⟨-, rfl⟩ := by simpa using hr
      have := ih hi
      simp
      omega

/-- The text before and after the first colon that a minus sign follows. -/
def splitDefault : List Char → Option (List Char × List Char)
  | [] => none
  | ':' :: '-' :: cs => some ([], cs)
  | c :: cs => (splitDefault cs).map fun (name, rest) => (c :: name, rest)

/-- The reference that stands between braces. A default needs a name before it. -/
def reference (inner : List Char) : Piece :=
  match splitDefault inner with
  | some (c :: name, default) => .ref (c :: name) (some default)
  | _ => .ref inner none

/-- The pieces of a text. -/
def pieces (cs : List Char) : List Piece :=
  match cs with
  | [] => []
  | '$' :: '\x7b' :: rest =>
    match _h : closing rest with
    | some (inner, rest') => reference inner :: pieces rest'
    | none => .literal ['$', '\x7b'] :: pieces rest
  | '$' :: '$' :: rest => .literal ['$'] :: pieces rest
  | '$' :: c :: rest =>
    if isNameChar c then
      .ref (c :: rest.takeWhile isNameChar) none :: pieces (rest.dropWhile isNameChar)
    else .literal ['$'] :: pieces (c :: rest)
  | c :: rest => .literal [c] :: pieces rest
termination_by cs.length
decreasing_by
  · have := length_closing _h; simp only [List.length_cons]; omega
  · simp only [List.length_cons]; omega
  · simp only [List.length_cons]; omega
  · have := (rest.dropWhile_sublist isNameChar).length_le; simp only [List.length_cons]; omega
  · simp only [List.length_cons]; omega
  · simp only [List.length_cons]; omega

/-- The text of a piece: a variable that is set gives its value, any other its default. -/
def Piece.value? (e : Environment) : Piece → Option (List Char)
  | literal cs => some cs
  | ref name default =>
    match e.get? (String.ofList name) with
    | some v => some v.toList
    | none => default

/-- The texts of all pieces, one after the other, if each has one. -/
def valueAll? (e : Environment) : List Piece → Option (List Char)
  | [] => some []
  | p :: ps =>
    match p.value? e, valueAll? e ps with
    | some v, some vs => some (v ++ vs)
    | _, _ => none

/-- The text with its references resolved, unless one cannot be. -/
def substitute? (e : Environment) (cs : List Char) : Option (List Char) :=
  valueAll? e (pieces cs)

/-- The text with a tilde at its beginning replaced by the home directory. -/
def expandTilde (e : Environment) (cs : List Char) : List Char :=
  match cs, e.home? with
  | ['~'], some home => home.toList
  | '~' :: '/' :: rest, some home => home.toList ++ '/' :: rest
  | _, _ => cs

/-- The expanded text. -/
def expandChars (e : Environment) (cs : List Char) : List Char :=
  match substitute? e cs with
  | none => cs
  | some result =>
    if cs.head? != some '~' && result.head? == some '~' then result else expandTilde e result

end Expansion

/-- The text with references and a leading tilde replaced. -/
def expand (e : Environment) (s : String) : String :=
  String.ofList (Expansion.expandChars e s.toList)

end AstCompare.Settings
