/-!
# Quoting names

Programs put names between quotes when they tell about them. There are two ways. A name as a shell
reads it stands between single quotes, and characters that cannot be printed are spelled out in a
part of their own, after a dollar sign. A word that is only cited has such characters spelled out
where they stand.

## Main definitions

* `quoted`: a name as a shell reads it.
* `shown`: the same, where the quotes are left out if the name is easy to read.
* `cited`: a word between quotes.
-/

namespace AstCompare.Shell.Tool

/-- How a character is spelled out, if it cannot be printed. -/
def spelling? (c : Char) : Option (List Char) :=
  let letter (l : Char) : Option (List Char) := some ['\\', l]
  match c.toNat with
  | 7 => letter 'a'
  | 8 => letter 'b'
  | 9 => letter 't'
  | 10 => letter 'n'
  | 11 => letter 'v'
  | 12 => letter 'f'
  | 13 => letter 'r'
  | n =>
    if n < 32 || 127 ≤ n then
      some ['\\', Nat.digitChar (n / 64 % 8), Nat.digitChar (n / 8 % 8), Nat.digitChar (n % 8)]
    else none

/-- The characters of a name between quotes, and the quote at their end. `spelled` tells that those
before were spelled out. -/
def quotedFrom (spelled : Bool) : List Char → List Char
  | [] => ['\'']
  | c :: cs =>
    if c == '\'' then '\'' :: '\\' :: '\'' :: '\'' :: quotedFrom false cs
    else
      match spelling? c with
      | some s => (if spelled then [] else ['\'', '$', '\'']) ++ s ++ quotedFrom true cs
      | none => (if spelled then ['\'', '\''] else []) ++ c :: quotedFrom false cs

/-- The characters that mean something to a shell wherever they stand. -/
def shellSigns : List Char :=
  [' ', '!', '"', '$', '&', '\'', '(', ')', '*', ';', '<', '=', '>', '?', '[', '\\', '^',
    '\x60', '|']

/-- The character means something to a shell at a place of a word. -/
def isShellSign (alone first : Bool) (c : Char) : Bool :=
  shellSigns.contains c || first && (c == '#' || c == '~') || alone && (c == '\x7b' || c == '\x7d')

/-- The character stands for itself between double quotes as well as between single ones. -/
def isSafeInBoth (alone first : Bool) (c : Char) : Bool :=
  if ['#', '~', '\x7b', '\x7d'].contains c then isShellSign alone first c
  else c == ' ' || c == '\'' || !(shellSigns.contains c || (spelling? c).isSome)

/-- A property holds of some character of a text, which knows whether it is alone and whether it is
the first. -/
def anyPlaced (p : Bool → Bool → Char → Bool) (cs : List Char) : Bool :=
  cs.zipIdx.any fun (c, i) => p (cs.length == 1) (i == 0) c

/-- A name between quotes, as a shell reads it. -/
def quoted (s : String) : String :=
  let cs := s.toList
  if !cs.contains '\'' then String.ofList ('\'' :: quotedFrom false cs)
  else if anyPlaced (fun alone first c => !isSafeInBoth alone first c) cs then
    String.ofList ('\'' :: quotedFrom (cs.getLast?.any fun c => (spelling? c).isSome) cs)
  else "\"" ++ s ++ "\""

/-- A name, between quotes if it means something else to a shell or holds one of the given
characters. -/
def quotedIfNeeded (others : List Char) (s : String) : String :=
  let needs (alone first : Bool) (c : Char) : Bool :=
    isShellSign alone first c || (spelling? c).isSome || others.contains c
  if s.isEmpty || anyPlaced needs s.toList then quoted s else s

/-- A name before a colon, between quotes if it is hard to read. -/
def shown (s : String) : String :=
  quotedIfNeeded [':'] s

/-- A word between quotes, with the characters spelled out that cannot be printed. -/
def cited (s : String) : String :=
  String.ofList ('\'' :: (s.toList.flatMap fun c =>
    if c == '\'' || c == '\\' then ['\\', c] else (spelling? c).getD [c]) ++ ['\''])

end AstCompare.Shell.Tool
