import AstCompare.Toml.Number
import AstCompare.Toml.Quoted
import AstCompare.Toml.Table

/-!
# Reading a TOML document

A document is read line by line: comments, keys with their values, and headers. Values nest to a
fixed depth at most, so reading a value recurses on the levels that are left. A reader either gives
what it read and the rest of the text, or nothing; what is wrong with a document is not told.

## Main definitions

* `readKey`, `readValue`: keys and values.
* `readDocument`: the table of a document.
-/

namespace AstCompare.Toml

/-! ### Blanks and comments -/

/-- The text after spaces and tabs. -/
def skipBlanks (cs : List Char) : List Char :=
  cs.dropWhile fun c => c == ' ' || c == '\t'

/-- The text after the characters of a comment, which end where a line may end. -/
def skipCommentText (cs : List Char) : List Char :=
  cs.dropWhile fun c => !isControl c

/-- The text after a line end. -/
def newline? : List Char → Option (List Char)
  | '\n' :: cs => some cs
  | '\r' :: '\n' :: cs => some cs
  | _ => none

/-- The text after blanks and a comment, if there is one. -/
def skipTrailing (cs : List Char) : List Char :=
  match skipBlanks cs with
  | '#' :: rest => skipCommentText rest
  | rest => rest

/-- The next line, if nothing but blanks and a comment stands before it. -/
def endLine (cs : List Char) : Option (List Char) :=
  match skipTrailing cs with
  | [] => some []
  | rest => newline? rest

/-- The text after blanks, comments and line ends, as they may stand between the items of an array.
`fuel` bounds the number of lines. -/
def skipLines (fuel : Nat) (cs : List Char) : List Char :=
  match fuel with
  | 0 => skipTrailing cs
  | fuel + 1 =>
    match newline? (skipTrailing cs) with
    | some rest => skipLines fuel rest
    | none => skipTrailing cs

/-- The text after everything that may stand between the items of an array. -/
def skipBetween (cs : List Char) : List Char :=
  skipLines cs.length cs

/-! ### Keys -/

/-- A character of a key without quotes. -/
def isKeyChar (c : Char) : Bool :=
  c.isAlphanum || c == '_' || c == '-'

/-- One part of a key. -/
def readKeyPart : List Char → Option (String × List Char)
  | '"' :: cs => (readBasic cs).map fun (s, rest) => (String.ofList s, rest)
  | '\'' :: cs => (readLiteral cs).map fun (s, rest) => (String.ofList s, rest)
  | cs =>
    let name := cs.takeWhile isKeyChar
    if name.isEmpty then none else some (String.ofList name, cs.dropWhile isKeyChar)

/-- A key has fewer parts than this, and values nest less deep. -/
def depthLimit : Nat := 80

/-- The parts of a key, with blanks around the dots between them and around the whole. `fuel` bounds
the number of parts. -/
def readKeyParts (fuel : Nat) (cs : List Char) : Option (List String × List Char) :=
  match fuel with
  | 0 => none
  | fuel + 1 =>
    match readKeyPart (skipBlanks cs) with
    | none => none
    | some (part, rest) =>
      match skipBlanks rest with
      | '.' :: rest => (readKeyParts fuel rest).map fun (parts, rest) => (part :: parts, rest)
      | rest => some ([part], rest)

/-- A key: the path to it, its last name, and the rest of the text. -/
def readKey (cs : List Char) : Option (List String × String × List Char) := do
  let (parts, rest) ← readKeyParts (depthLimit - 1) cs
  let name ← parts.getLast?
  return (parts.dropLast, name, rest)

/-! ### Values -/

/-- The word `true` or `false`. -/
def readBoolean : List Char → Option (Value × List Char)
  | 't' :: 'r' :: 'u' :: 'e' :: cs => some (.boolean true, cs)
  | 'f' :: 'a' :: 'l' :: 's' :: 'e' :: cs => some (.boolean false, cs)
  | _ => none

/-- The items of an array up to its closing bracket. `fuel` bounds the number of items. -/
def readItems (item : List Char → Option (Value × List Char)) (fuel : Nat) (cs : List Char) :
    Option (List Value × List Char) :=
  match fuel with
  | 0 => none
  | fuel + 1 =>
    match skipBetween cs with
    | ']' :: rest => some ([], rest)
    | cs => do
      let (v, rest) ← item cs
      match skipBetween rest with
      | ']' :: rest => some ([v], rest)
      | ',' :: rest => (readItems item fuel rest).map fun (vs, rest) => (v :: vs, rest)
      | _ => none

/-- A key, an equals sign and a value. -/
def readPair (item : List Char → Option (Value × List Char)) (cs : List Char) :
    Option ((List String × String × Value) × List Char) := do
  let (path, name, rest) ← readKey cs
  match rest with
  | '=' :: rest =>
    let (v, rest) ← item (skipBlanks rest)
    return ((path, name, v), rest)
  | _ => none

/-- The pairs of a table between braces, from the second on, up to the closing brace. `fuel` bounds
the number of pairs. -/
def readPairs (item : List Char → Option (Value × List Char)) (fuel : Nat) (entries : Entries)
    (cs : List Char) : Option (Entries × List Char) :=
  match fuel with
  | 0 => none
  | fuel + 1 => do
    let ((path, name, v), rest) ← readPair item cs
    let entries ← assign entries path name v
    match skipBlanks rest with
    | '\x7d' :: rest => some (entries, rest)
    | ',' :: rest => readPairs item fuel entries rest
    | _ => none

/-- A table between braces, read after the opening one. -/
def readBraces (item : List Char → Option (Value × List Char)) (cs : List Char) :
    Option (Value × List Char) :=
  match skipBlanks cs with
  | '\x7d' :: rest => some (.table [], rest)
  | cs => (readPairs item cs.length [] cs).map fun (es, rest) => (.table (entriesToValues es), rest)

/-- A value that holds no other values. -/
def readPlain (cs : List Char) : Option (Value × List Char) :=
  match cs with
  | '"' :: _ => (readQuoted cs).map fun (s, rest) => (.string (String.ofList s), rest)
  | '\'' :: _ => (readQuoted cs).map fun (s, rest) => (.string (String.ofList s), rest)
  | _ => readBoolean cs <|> readNumber cs

/-- A value in which others nest `levels` deep at most. -/
def readValue (levels : Nat) (cs : List Char) : Option (Value × List Char) :=
  match levels, cs with
  | levels + 1, '[' :: rest =>
    (readItems (readValue levels) rest.length rest).map fun (vs, rest) => (.array vs, rest)
  | levels + 1, '\x7b' :: rest => readBraces (readValue levels) rest
  | _, cs => readPlain cs

/-! ### Documents -/

/-- The table so far, and the path of the header that is in force. -/
structure Document where
  entries : Entries := []
  current : List String := []

/-- A header, read after its first bracket, and the end of its line. -/
def readHeader (d : Document) (cs : List Char) : Option (Document × List Char) :=
  match cs with
  | '[' :: cs => do
    let (path, name, rest) ← readKey cs
    match rest with
    | ']' :: ']' :: rest =>
      let entries ← openArray d.entries path name
      let rest ← endLine rest
      return (⟨entries, path ++ [name]⟩, rest)
    | _ => none
  | cs => do
    let (path, name, rest) ← readKey cs
    match rest with
    | ']' :: rest =>
      let entries ← openTable d.entries path name
      let rest ← endLine rest
      return (⟨entries, path ++ [name]⟩, rest)
    | _ => none

/-- A key with its value, and the end of its line. -/
def readAssignment (d : Document) (cs : List Char) : Option (Document × List Char) := do
  let ((path, name, v), rest) ← readPair (readValue (depthLimit - 1)) cs
  let entries ← assignIn d.entries d.current path name v
  let rest ← endLine rest
  return (⟨entries, d.current⟩, rest)

/-- One line, or as many as the value in it has. -/
def readLine (d : Document) (cs : List Char) : Option (Document × List Char) :=
  match cs with
  | '[' :: rest => readHeader d rest
  | '#' :: _ => (endLine cs).map fun rest => (d, rest)
  | '\n' :: _ => (endLine cs).map fun rest => (d, rest)
  | '\r' :: _ => (endLine cs).map fun rest => (d, rest)
  | cs => readAssignment d cs

/-- The lines of a document. `fuel` bounds their number. -/
def readLines (fuel : Nat) (d : Document) (cs : List Char) : Option Document :=
  match skipBlanks cs with
  | [] => some d
  | cs =>
    match fuel with
    | 0 => none
    | fuel + 1 =>
      match readLine d cs with
      | none => none
      | some (d, rest) => readLines fuel d rest

/-- The text after a byte order mark, if it starts with one. -/
def skipMark : List Char → List Char
  | '\uFEFF' :: cs => cs
  | cs => cs

/-- The table of a document, or nothing if it is not one. -/
def readDocument (s : String) : Option Value :=
  let cs := skipMark s.toList
  (readLines cs.length {} cs).map fun d => .table (entriesToValues d.entries)

end AstCompare.Toml
