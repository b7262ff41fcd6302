import AstCompare.Environment
import AstCompare.Failure
import AstCompare.Settings.Basic
import AstCompare.Text.Lowercase
import AstCompare.Text.Visible

/-!
# Settings from variables

Variables of the environment are the last layer of settings. Names are taken in lower case, those
that start with `astviz_` count, and two underscores stand for a dot. What is left is a key: names
with dots between them and positions in brackets, or else, if it has not that form, one name as it
stands.

The keys of all variables build up a tree. A key that leads through a text turns it into a table,
and one that leads to a position turns it into a sequence. A field takes the text that its key leads
to; a table or a sequence there is an error.

## Main definitions

* `Variables.Step`, `Variables.key`: what a variable is about.
* `Variables.Node`, `Variables.tree`: the tree of all keys.
* `Variables.layer`: the fields that variables give.
-/

namespace AstCompare.Settings.Variables

/-! ### Keys -/

/-- One step of a key: into a table or into a sequence. -/
inductive Step where
  | name (s : String)
  | position
  deriving DecidableEq, Repr

/-- What a name has to start with to count. -/
def lead : List Char := "astviz_".toList

/-- The text with every two underscores replaced by a dot. -/
def dotted : List Char → List Char
  | '_' :: '_' :: cs => '.' :: dotted cs
  | c :: cs => c :: dotted cs
  | [] => []

/-- A character of a name within a key. -/
def isNameChar (c : Char) : Bool :=
  c.isAlphanum || c == ' ' || c == '_' || c == '-'

/-- A name of at least one character. -/
def readName (cs : List Char) : Option (Step × List Char) :=
  let name := cs.takeWhile isNameChar
  if name.isEmpty then none else some (.name (String.ofList name), cs.dropWhile isNameChar)

/-- What is left after spaces and tabs. -/
def skipSpace (cs : List Char) : List Char :=
  cs.dropWhile fun c => c == ' ' || c == '\t'

/-- A position, read after its opening bracket: an integer of sixty-four bits, with spaces around
it. -/
def readPosition (cs : List Char) : Option (Step × List Char) :=
  let (negative, cs) := match skipSpace cs with
    | '-' :: rest => (true, rest)
    | cs => (false, cs)
  let digits := cs.takeWhile Char.isDigit
  let n := digits.foldl (fun n c => n * 10 + (c.toNat - 48)) 0
  if digits.isEmpty || (if negative then 0x8000000000000000 < n else 0x8000000000000000 ≤ n) then
    none
  else
    match skipSpace (cs.dropWhile Char.isDigit) with
    | ']' :: rest => some (.position, rest)
    | _ => none

/-- The steps after the first. `fuel` bounds their number. -/
def readSteps (fuel : Nat) (cs : List Char) : Option (List Step) :=
  match fuel, cs with
  | _, [] => some []
  | 0, _ => none
  | fuel + 1, '.' :: cs => do
    let (step, rest) ← readName cs
    let steps ← readSteps fuel rest
    return step :: steps
  | fuel + 1, '[' :: cs => do
    let (step, rest) ← readPosition cs
    let steps ← readSteps fuel rest
    return step :: steps
  | _, _ => none

/-- The steps of a key of the regular form. -/
def readKey? (cs : List Char) : Option (List Step) := do
  let (step, rest) ← readName cs
  let steps ← readSteps rest.length rest
  return step :: steps

/-- The steps of a key: if it is not of the regular form it is one name. -/
def readKey (cs : List Char) : List Step :=
  (readKey? cs).getD [.name (String.ofList cs)]

/-- The key of a variable, if its name counts. -/
def key (name : String) : Option (List Step) :=
  let cs := (Text.lowercase name).toList
  if lead.isPrefixOf cs then some (readKey (dotted (cs.drop lead.length))) else none

/-! ### The tree of keys -/

/-- What keys lead to. What a sequence holds is never asked for. -/
inductive Node where
  | text (s : String)
  | table (entries : List (String × Node))
  | sequence

/-- The entries of a node; a node that is no table has none. -/
def Node.entries : Node → List (String × Node)
  | table es => es
  | _ => []

/-- The entries with the one of that name exchanged, or added. -/
def putEntry (name : String) (n : Node) : List (String × Node) → List (String × Node)
  | [] => [(name, n)]
  | (m, x) :: rest => if m = name then (name, n) :: rest else (m, x) :: putEntry name n rest

/-- The node with a text put where the steps lead. -/
def Node.put (value : String) : List Step → Node → Node
  | [], _ => .text value
  | .position :: _, _ => .sequence
  | .name s :: steps, n =>
    let inner := (n.entries.lookup s).getD (.table [])
    .table (putEntry s (inner.put value steps) n.entries)

/-- The node that a list of names leads to. -/
def Node.get? : List String → Node → Option Node
  | [], n => some n
  | s :: names, n => (n.entries.lookup s).bind fun m => m.get? names

/-- The tree of all variables that count, the later ones put over the earlier. -/
def tree (e : Environment) : Node :=
  e.bindings.foldl
    (fun n (name, value) => match key name with
      | some steps => n.put value steps
      | none => n)
    (.table [])

/-! ### Fields -/

/-- The complaint about a value of the wrong kind. -/
def wrongKind (found expected : String) (names : List String) (origin : String) : Failure :=
  .settings ("invalid type: " ++ found ++ ", expected " ++ expected ++ " for key `" ++
    ".".intercalate names ++ "`" ++ origin)

/-- The text of a field. -/
def textField (n : Node) (names : List String) : Except Failure (Option String) :=
  match n.get? names with
  | none => .ok none
  | some (.text s) => .ok (some s)
  | some (.table _) => .error (wrongKind "map" "a string" names "")
  | some .sequence => .error (wrongKind "sequence" "a string" names "")

/-- The truth value that a text stands for. -/
def flag? (s : String) : Option Bool :=
  if s ∈ ["1", "true", "on", "yes"] then some true
  else if s ∈ ["0", "false", "off", "no"] then some false
  else none

/-- The truth value of a field, whose text may be in upper or lower case. -/
def flagField (n : Node) (names : List String) : Except Failure (Option Bool) :=
  match n.get? names with
  | none => .ok none
  | some (.text s) =>
    match flag? (Text.lowercase s) with
    | some b => .ok (some b)
    | none =>
      .error (wrongKind ("string " ++ Text.shown (Text.lowercase s)) "a boolean" names
        " in the environment")
  | some (.table _) => .error (wrongKind "map" "a boolean" names "")
  | some .sequence => .error (wrongKind "sequence" "a boolean" names "")

/-- The fields that the variables give, or the first complaint. -/
def layer (e : Environment) : Except Failure Layer := do
  let n := tree e
  let outputDir ← textField n ["output_dir"]
  let dotProgram ← textField n ["dot_program"]
  let fixedNames ← flagField n ["fixed_names"]
  let keepDot ← flagField n ["keep_dot"]
  let indentUnit ← textField n ["indent_unit"]
  let unchanged ← textField n ["colors", "unchanged"]
  let changed ← textField n ["colors", "changed"]
  return { outputDir, dotProgram, fixedNames, keepDot, indentUnit, unchanged, changed }

end AstCompare.Settings.Variables
