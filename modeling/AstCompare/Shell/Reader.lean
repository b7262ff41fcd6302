import AstCompare.Shell.Script

/-!
# Reading scripts

A script is read one complete command at a time, because a command may be run before the next one is
looked at. The reader follows the grammar, one function per kind of phrase, and works on the
characters directly: within a word there may be whole commands, and where they end is known only
once they have been read.

A text for a command that stands in the lines below it is read when the line of the command ends.
Until then the command knows only its number.

All functions take a number that bounds the depth of the recursion. Every step takes a character
away or goes to a smaller kind of phrase, so a small multiple of the length of the text is enough.

## Main definitions

* `SyntaxError`: why a text is not a script.
* `Reader`: what is left to read, and what is known from before.
* `Reader.command`: the next command.
-/

namespace AstCompare.Shell

/-! ### Errors -/

/-- What is wrong with a script. -/
inductive SyntaxProblem where
  | unexpected (found : String) (expected : Option String)
  | loopVariable
  | functionName
  | openQuotes
  | openSum
  | openBraces
  | openBackquotes
  | streamNumber
  | tooDeep
  deriving DecidableEq, Repr

/-- The words for the problem. -/
def SyntaxProblem.message : SyntaxProblem → String
  | unexpected found none => found ++ " unexpected"
  | unexpected found (some expected) => found ++ " unexpected (expecting " ++ expected ++ ")"
  | loopVariable => "Bad for loop variable"
  | functionName => "Bad function name"
  | openQuotes => "Unterminated quoted string"
  | openSum => "Missing '))'"
  | openBraces => "Missing '\x7d'"
  | openBackquotes => "EOF in backquote substitution"
  | streamNumber => "Bad fd number"
  | tooDeep => "nesting too deep"

/-- Why a text is not a script, and the line on which that was noticed. -/
structure SyntaxError where
  line : Nat
  problem : SyntaxProblem
  deriving DecidableEq, Repr

/-- The words for the error. -/
def SyntaxError.message (e : SyntaxError) : String :=
  "Syntax error: " ++ e.problem.message

/-! ### Tokens -/

/-- What the operator of a redirection asks for. -/
inductive RedirectKind where
  | file (opening : Opening)
  | copy
  | document (strip : Bool)
  deriving DecidableEq, Repr

/-- The tokens of a script. -/
inductive Token where
  | word (w : Word)
  | redirect (fd : Nat) (kind : RedirectKind)
  | symbol (s : String)
  | keyword (s : String)
  | finish

/-- How a token is called in complaints. -/
def Token.name : Token → String
  | word _ => "word"
  | redirect _ _ => "redirection"
  | symbol "\n" => "newline"
  | symbol s | keyword s => "\"" ++ s ++ "\""
  | finish => "end of file"

/-- The words with a meaning of their own at the beginning of a command. -/
def keywords : List String :=
  ["!", "case", "do", "done", "elif", "else", "esac", "fi", "for", "if", "in", "then", "until",
    "while", "\x7b", "\x7d"]

/-- The token closes a list of commands. -/
def Token.closes : Token → Bool
  | finish => true
  | symbol s => s == ")" || s == ";;"
  | keyword s => ["do", "done", "elif", "else", "esac", "fi", "then", "\x7d"].contains s
  | _ => false

/-- Which meanings of a token are looked for. -/
structure Mode where
  /-- Line ends are skipped. -/
  lines : Bool := false
  keywords : Bool := false
  aliases : Bool := false
  /-- The word marks the end of a text, so dollar signs stand for themselves. -/
  mark : Bool := false

/-- The mode at the beginning of a command. -/
def Mode.start : Mode := { keywords := true, aliases := true }

/-- The mode at the beginning of a command that may stand on a later line. -/
def Mode.startBelow : Mode := { Mode.start with lines := true }

/-! ### The reader -/

/-- A text within the script whose lines are still to come. -/
structure Waiting where
  number : Nat
  mark : List Char
  /-- Dollar signs in it stand for themselves. -/
  plain : Bool
  /-- Tabs at the beginning of its lines are left out. -/
  strip : Bool

/-- What is left to read, and what is known from before. -/
structure Reader where
  rest : List Char
  line : Nat := 1
  /-- A token that has been looked at but not taken. -/
  pushed : Option Token := none
  aliases : List (String × String) := []
  /-- The aliases that are being read, with the number of characters after them. -/
  expanding : List (String × Nat) := []
  waiting : List Waiting := []
  documents : List (Nat × Word) := []
  nextDocument : Nat := 0

/-- Between two places the end of an alias has been read whose text ends in a blank. The word after
it may be an alias as well. -/
def Reader.leavesBlankAlias (before after : Reader) : Bool :=
  before.expanding.any fun (name, left) =>
    left < before.rest.length && after.rest.length < left &&
      match before.aliases.lookup name with
      | some value => value.endsWith " " || value.endsWith "\t"
      | none => false

/-- Reading takes characters away, or fails. -/
abbrev Read := StateT Reader (Except SyntaxError)

namespace Read

/-- Fails with a problem at the present line. -/
def fail {α : Type} (p : SyntaxProblem) : Read α := do
  throw ⟨(← get).line, p⟩

/-- Fails because of a token. -/
def unexpected {α : Type} (t : Token) (expected : Option String) : Read α :=
  fail (.unexpected t.name expected)

/-- What is left after lines that are joined to the next, and their number. -/
def skipJoins (n : Nat) : List Char → Nat × List Char
  | '\\' :: '\n' :: cs => skipJoins (n + 1) cs
  | cs => (n, cs)

/-- The next character. A backslash and the line end after it are skipped first. -/
def peek : Read (Option Char) := do
  let r ← get
  match r.rest with
  | '\\' :: '\n' :: _ =>
    let (line, rest) := skipJoins r.line r.rest
    set { r with line, rest }
    return rest.head?
  | cs => return cs.head?

/-- Takes one character. -/
def advance : Read Unit :=
  modify fun r =>
    { r with rest := r.rest.tail, line := if r.rest.head? = some '\n' then r.line + 1 else r.line }

/-- Takes a character as it is. -/
def takeRaw : Read (Option Char) := do
  let c := (← get).rest.head?
  advance
  return c

/-- Takes the characters for which the test holds. -/
def takeWhile (p : Char → Bool) : Read (List Char) := do
  let r ← get
  let taken := r.rest.takeWhile p
  set { r with rest := r.rest.dropWhile p, line := r.line + taken.count '\n' }
  return taken

/-- Takes a character if it is the next one. -/
def takeIf (c : Char) : Read Bool := do
  if (← peek) = some c then
    advance
    return true
  return false

/-- Gives a token back. -/
def push (t : Token) : Read Unit :=
  modify fun r => { r with pushed := some t }

/-- What stands between single quotes, after the first. -/
def single : Read (List Char) := do
  let cs ← takeWhile (· != '\'')
  if (← takeRaw).isNone then fail .openQuotes
  return cs

/-- A name, or the digits of a number. -/
def takeName : Read String := do
  match ← peek with
  | some c =>
    let cs ← takeWhile (if c.isDigit then Char.isDigit else isNameChar)
    return String.ofList cs
  | none => return ""

end Read

/-- Adds text in front of parts, the latest of which comes first. -/
def addText (quoted : Bool) (cs : List Char) : List Part → List Part
  | .text s q :: rest =>
    if q = quoted then .text (s ++ cs) q :: rest else .text cs quoted :: .text s q :: rest
  | rest => .text cs quoted :: rest

/-- Where a part of a word stands. -/
inductive Place where
  | bare
  /-- In the mark of a text within the script. -/
  | mark
  /-- Between double quotes, which may themselves stand between braces. -/
  | double (inBraces : Bool)
  /-- Between braces, which may themselves stand between double quotes. -/
  | braces (quoted : Bool)
  /-- In a sum, with so many open parentheses. -/
  | sum (depth : Nat)
  /-- In a text within the script. -/
  | document

/-- What stands there counts as quoted. -/
def Place.quoted : Place → Bool
  | bare | mark => false
  | braces quoted => quoted
  | double _ | sum _ | document => true

/-- The characters that a backslash protects there; outside quotes these are all. -/
def Place.protects (p : Place) (c : Char) : Bool :=
  match p with
  | bare | mark | braces false => true
  | double false | sum _ => ['$', '\x60', '"', '\\'].contains c
  | double true | braces true => ['$', '\x60', '"', '\\', '\x7d'].contains c
  | document => ['$', '\x60', '\\'].contains c

/-- The character ends a bare word. -/
def endsWord (c : Char) : Bool :=
  [' ', '\t', '\n', ';', '&', '|', '(', ')', '<', '>'].contains c

/-- The text of a command in backquotes, after the first, and what follows it. A backslash protects
itself, the dollar sign, the backquote and, between double quotes, the quote. -/
def backquoted (quoted : Bool) : List Char → Option (List Char × List Char)
  | [] => none
  | '\x60' :: cs => some ([], cs)
  | '\\' :: '\n' :: cs => backquoted quoted cs
  | '\\' :: c :: cs =>
    (backquoted quoted cs).map fun (text, rest) =>
      if c = '\\' ∨ c = '\x60' ∨ c = '$' ∨ (quoted ∧ c = '"') then (c :: text, rest)
      else ('\\' :: c :: text, rest)
  | c :: cs => (backquoted quoted cs).map fun (text, rest) => (c :: text, rest)

/-- The line ends in a backslash that joins it to the next. -/
def isJoined (line : List Char) : Bool :=
  (line.reverse.takeWhile (· == '\\')).length % 2 == 1

/-- The lines of a text within the script up to its mark, and what follows. `joined` tells that the
present line belongs to the one before it. -/
def documentLines (w : Waiting) (fuel : Nat) (joined : Bool) (cs : List Char) :
    List Char × List Char :=
  match fuel, cs with
  | 0, _ | _, [] => ([], cs)
  | fuel + 1, cs =>
    let raw := cs.takeWhile (· != '\n')
    let rest := cs.dropWhile (· != '\n')
    let shown := if w.strip && !joined then raw.dropWhile (· == '\t') else raw
    if !joined && shown == w.mark then ([], rest.drop 1)
    else
      let (text, left) := documentLines w fuel (!w.plain && isJoined raw) (rest.drop 1)
      (shown ++ rest.take 1 ++ text, left)

/-- The kinds of lists of commands: those that end with the line, those that have at least one
command, and those that may be empty. -/
inductive ListKind where
  | line
  | filled
  | any
  deriving DecidableEq

/-- One command, or several in order. -/
def sequenceOf : List Command → Command
  | [] => .nothing
  | [c] => c
  | cs => .sequence cs

namespace Read

mutual

/-- Reads parts of a word up to the end of their place. Parts come latest first. -/
def parts (fuel : Nat) (place : Place) (acc : List Part) : Read (List Part) :=
  match fuel with
  | 0 => fail .tooDeep
  | fuel + 1 => do
    let quoted := place.quoted
    match ← peek with
    | none =>
      match place with
      | .bare | .mark | .document => return acc
      | .double _ | .braces true => fail .openQuotes
      | .braces false => fail .openBraces
      | .sum _ => fail .openSum
    | some c =>
      match place, c with
      | .double _, '"' =>
        advance
        return acc
      | .braces _, '\x7d' =>
        advance
        return acc
      | .braces true, '"' =>
        advance
        let acc ← parts fuel (.double true) (addText true [] acc)
        parts fuel place acc
      | .sum depth, '(' =>
        advance
        parts fuel (.sum (depth + 1)) (addText true [c] acc)
      | .sum (depth + 1), ')' =>
        advance
        parts fuel (.sum depth) (addText true [c] acc)
      | .sum 0, ')' =>
        advance
        if ← takeIf ')' then return acc
        parts fuel place (addText true [c] acc)
      | .mark, '$' | .mark, '\x60' =>
        advance
        parts fuel place (addText (c == '\x60') [c] acc)
      | _, '$' =>
        advance
        let acc ← dollar fuel quoted acc
        parts fuel place acc
      | _, '\x60' =>
        advance
        let acc ← backquotes fuel quoted acc
        parts fuel place acc
      | _, '\\' =>
        advance
        match ← takeRaw with
        | none => parts fuel place (addText true ['\\'] acc)
        | some d =>
          if place.protects d then parts fuel place (addText true [d] acc)
          else parts fuel place (addText true ['\\', d] acc)
      | _, _ =>
        if !quoted && c == '\'' then
          advance
          let cs ← single
          parts fuel place (addText true cs acc)
        else if !quoted && c == '"' then
          advance
          let inBraces := match place with
            | .braces _ => true
            | _ => false
          let acc ← parts fuel (.double inBraces) (addText true [] acc)
          parts fuel place acc
        else
          match place with
          | .bare | .mark =>
            if endsWord c then return acc
            advance
            parts fuel place (addText false [c] acc)
          | _ =>
            advance
            parts fuel place (addText quoted [c] acc)

/-- Reads what follows a dollar sign. -/
def dollar (fuel : Nat) (quoted : Bool) (acc : List Part) : Read (List Part) :=
  match fuel with
  | 0 => fail .tooDeep
  | fuel + 1 => do
    match ← peek with
    | some '(' =>
      advance
      if ← takeIf '(' then
        let inner ← parts fuel (.sum 0) []
        return .sum inner.reverse quoted :: acc
      let body ← substitution fuel
      return .output body quoted :: acc
    | some '\x7b' =>
      advance
      let p ← braced fuel quoted
      return p :: acc
    | some c =>
      if isNameStart c then
        return .parameter (← takeName) .plain quoted :: acc
      else if isSign c then
        advance
        return .parameter (.singleton c) .plain quoted :: acc
      else return addText quoted ['$'] acc
    | none => return addText quoted ['$'] acc

/-- Reads a parameter after its opening brace. -/
def braced (fuel : Nat) (quoted : Bool) : Read Part :=
  match fuel with
  | 0 => fail .tooDeep
  | fuel + 1 => do
    match ← peek with
    | some '#' =>
      advance
      match (← get).rest with
      | c :: rest =>
        if isNameChar c then
          let name ← takeName
          if ← takeIf '\x7d' then return .parameter name .length quoted
          discard <| parts fuel (.braces quoted) []
          return .parameter name .wrong quoted
        else if c != '\x7d' && rest.head? == some '\x7d' then
          advance
          advance
          return .parameter (.singleton c) (if isSign c then .length else .wrong) quoted
        else operator fuel "#" quoted
      | [] => operator fuel "#" quoted
    | some c =>
      if isNameChar c then
        let name ← takeName
        operator fuel name quoted
      else if isSign c then
        advance
        operator fuel (.singleton c) quoted
      else
        discard <| parts fuel (.braces quoted) []
        return .parameter "" .wrong quoted
    | none => fail (if quoted then .openQuotes else .openBraces)

/-- Reads what follows the name of a parameter between braces. -/
def operator (fuel : Nat) (name : String) (quoted : Bool) : Read Part :=
  match fuel with
  | 0 => fail .tooDeep
  | fuel + 1 => do
    if ← takeIf '\x7d' then return .parameter name .plain quoted
    let orEmpty ← takeIf ':'
    let c ← peek
    if !orEmpty && (c = some '%' || c = some '#') then
      advance
      let longest ← if c = some '%' then takeIf '%' else takeIf '#'
      let w ← parts fuel (.braces false) []
      let w := w.reverse
      return .parameter name
        (if c = some '%' then .trimBack longest w else .trimFront longest w) quoted
    let use? : Option (Word → Use) := match c with
      | some '-' => some (.fallback orEmpty)
      | some '=' => some (.assign orEmpty)
      | some '?' => some (.demand orEmpty)
      | some '+' => some (.alternative orEmpty)
      | _ => none
    if use?.isSome then advance
    let w ← parts fuel (.braces quoted) []
    return .parameter name ((use?.map fun use => use w.reverse).getD .wrong) quoted

/-- Reads a command whose output is wanted, up to its closing parenthesis. -/
def substitution (fuel : Nat) : Read Command :=
  match fuel with
  | 0 => fail .tooDeep
  | fuel + 1 => do
    let waiting := (← get).waiting
    modify fun r => { r with waiting := [] }
    let body ← list fuel .any []
    match ← token fuel {} with
    | .symbol ")" => pure ()
    | t => unexpected t (some "\")\"")
    readDocuments fuel
    modify fun r => { r with waiting }
    return body

/-- Reads a command in backquotes, after the first. -/
def backquotes (fuel : Nat) (quoted : Bool) (acc : List Part) : Read (List Part) :=
  match fuel with
  | 0 => fail .tooDeep
  | fuel + 1 => do
    let r ← get
    match backquoted quoted r.rest with
    | none =>
      modify fun r => { r with line := r.line + r.rest.count '\n' }
      fail .openBackquotes
    | some (text, rest) =>
      let line := r.line + ((r.rest.take (r.rest.length - rest.length)).count '\n')
      set { r with rest := text, line := 1, waiting := [], expanding := [] }
      let body ← list fuel .any []
      readDocuments fuel
      modify fun s =>
        { s with rest, line, waiting := r.waiting, expanding := r.expanding, pushed := none }
      return .output body quoted :: acc

/-- Reads the texts that are waiting, when a line has ended. -/
def readDocuments (fuel : Nat) : Read Unit :=
  match fuel with
  | 0 => fail .tooDeep
  | fuel + 1 => do
    let r ← get
    match r.waiting with
    | [] => return
    | w :: waiting =>
      let (text, rest) := documentLines w r.rest.length false r.rest
      let line := r.line + ((r.rest.take (r.rest.length - rest.length)).count '\n')
      let word ← if w.plain then pure [Part.text text true]
        else do
          set { r with rest := text, waiting := [] }
          let ps ← parts fuel .document []
          pure ps.reverse
      modify fun s =>
        { s with rest, line, waiting, documents := (w.number, word) :: s.documents }
      readDocuments fuel

/-- Reads a token without looking at its meaning. -/
def rawToken (fuel : Nat) (mark : Bool) : Read Token :=
  match fuel with
  | 0 => fail .tooDeep
  | fuel + 1 => do
    match ← peek with
    | none => return .finish
    | some ' ' | some '\t' =>
      advance
      rawToken fuel mark
    | some '#' =>
      discard <| takeWhile (· != '\n')
      rawToken fuel mark
    | some c =>
      if ['\n', '(', ')'].contains c then
        advance
        return .symbol (.singleton c)
      else if ['&', '|', ';'].contains c then
        advance
        if ← takeIf c then return .symbol ((String.singleton c).push c)
        return .symbol (.singleton c)
      else
        let ps ← parts fuel (if mark then .mark else .bare) []
        let next ← peek
        match ps, next with
        | [], some '<' | [], some '>' => redirection none
        | [.text [d] false], some '<' | [.text [d] false], some '>' =>
          if d.isDigit then redirection (some (d.toNat - 48)) else return .word ps
        | _, _ => return .word ps.reverse

/-- Reads the operator of a redirection. -/
def redirection (fd : Option Nat) : Read Token := do
  if ← takeIf '>' then
    let kind ← if ← takeIf '>' then pure (.file .append)
      else if ← takeIf '|' then pure (.file .clobber)
      else if ← takeIf '&' then pure .copy
      else pure (.file .write)
    return .redirect (fd.getD 1) kind
  else
    advance
    let kind ← if ← takeIf '<' then pure (.document (← takeIf '-'))
      else if ← takeIf '&' then pure .copy
      else if ← takeIf '>' then pure (.file .readWrite)
      else pure (.file .read)
    return .redirect (fd.getD 0) kind

/-- Reads a token. -/
def token (fuel : Nat) (mode : Mode) : Read Token :=
  match fuel with
  | 0 => fail .tooDeep
  | fuel + 1 => do
    let r ← get
    let t ← match r.pushed with
      | some t =>
        set { r with pushed := none }
        pure t
      | none => rawToken fuel mode.mark
    let mode := { mode with aliases := mode.aliases || r.leavesBlankAlias (← get) }
    match t with
    | .symbol "\n" =>
      if mode.lines then
        readDocuments fuel
        token fuel mode
      else return t
    | .word w =>
      match Word.bare? w with
      | none => return t
      | some s =>
        if mode.keywords && keywords.contains s then return .keyword s
        else if mode.aliases then
          let r ← get
          let inUse := r.expanding.any fun (name, after) => name == s && after < r.rest.length + 1
          match r.aliases.lookup s with
          | some value =>
            if inUse then return t
            set { r with
              rest := value.toList ++ r.rest, expanding := (s, r.rest.length) :: r.expanding }
            token fuel mode
          | none => return t
        else return t
    | _ => return t

/-- Reads commands with separators between them. Those read before come latest first. -/
def list (fuel : Nat) (kind : ListKind) (acc : List Command) : Read Command :=
  match fuel with
  | 0 => fail .tooDeep
  | fuel + 1 => do
    let t ← token fuel { Mode.start with lines := kind != .line }
    match t with
    | .symbol "\n" =>
      readDocuments fuel
      return sequenceOf acc.reverse
    | .finish =>
      readDocuments fuel
      push t
      return sequenceOf acc.reverse
    | _ =>
      push t
      if (kind == .any || (kind != .line && !acc.isEmpty)) && t.closes then
        return sequenceOf acc.reverse
      let line := (← get).line
      let c ← andOr fuel
      let t ← token fuel {}
      let acc := (match t with
        | .symbol "&" => .background line c
        | _ => c) :: acc
      match t with
      | .finish =>
        readDocuments fuel
        push t
        return sequenceOf acc.reverse
      | .symbol "\n" =>
        push t
        list fuel kind acc
      | .symbol ";" | .symbol "&" => list fuel kind acc
      | _ =>
        if kind == .line then unexpected t none
        push t
        return sequenceOf acc.reverse

/-- Reads pipelines that depend on each other. -/
def andOr (fuel : Nat) : Read Command :=
  match fuel with
  | 0 => fail .tooDeep
  | fuel + 1 => do
    let c ← pipeline fuel {}
    andOrAfter fuel c

/-- Reads the pipelines after the first. -/
def andOrAfter (fuel : Nat) (first : Command) : Read Command :=
  match fuel with
  | 0 => fail .tooDeep
  | fuel + 1 => do
    match ← token fuel {} with
    | .symbol "&&" =>
      let c ← pipeline fuel .startBelow
      andOrAfter fuel (.both first c)
    | .symbol "||" =>
      let c ← pipeline fuel .startBelow
      andOrAfter fuel (.either first c)
    | t =>
      push t
      return first

/-- Reads commands with bars between them. -/
def pipeline (fuel : Nat) (mode : Mode) : Read Command :=
  match fuel with
  | 0 => fail .tooDeep
  | fuel + 1 => do
    let t ← token fuel mode
    match t with
    | .keyword "!" =>
      let c ← command fuel .start
      let c ← stages fuel [c]
      return .negation c
    | t =>
      push t
      let c ← command fuel {}
      stages fuel [c]

/-- Reads the commands of a pipeline after those that come latest first. -/
def stages (fuel : Nat) (acc : List Command) : Read Command :=
  match fuel with
  | 0 => fail .tooDeep
  | fuel + 1 => do
    match ← token fuel {} with
    | .symbol "|" =>
      let c ← command fuel .startBelow
      stages fuel (c :: acc)
    | t =>
      push t
      match acc with
      | [c] => return c
      | cs => return .pipe cs.reverse

/-- Takes a keyword or a symbol that has to come next. -/
def expect (fuel : Nat) (mode : Mode) (s : String) : Read Unit :=
  match fuel with
  | 0 => fail .tooDeep
  | fuel + 1 => do
    match ← token fuel mode with
    | .keyword k => if k = s then return else unexpected (.keyword k) (some ("\"" ++ s ++ "\""))
    | .symbol k => if k = s then return else unexpected (.symbol k) (some ("\"" ++ s ++ "\""))
    | t => unexpected t (some ("\"" ++ s ++ "\""))

/-- Reads one command. -/
def command (fuel : Nat) (mode : Mode) : Read Command :=
  match fuel with
  | 0 => fail .tooDeep
  | fuel + 1 => do
    let t ← token fuel mode
    let line := (← get).line
    match t with
    | .keyword "if" =>
      let c ← branch fuel
      expect fuel {} "fi"
      redirected fuel line c
    | .keyword "while" =>
      let c ← loop fuel false
      redirected fuel line c
    | .keyword "until" =>
      let c ← loop fuel true
      redirected fuel line c
    | .keyword "for" =>
      let c ← each fuel line
      redirected fuel line c
    | .keyword "case" =>
      let c ← choose fuel line
      redirected fuel line c
    | .symbol "(" =>
      let body ← list fuel .filled []
      expect fuel {} ")"
      redirected fuel line (.subshell line body [])
    | .keyword "\x7b" =>
      let body ← list fuel .filled []
      expect fuel {} "\x7d"
      redirected fuel line body
    | .word _ | .redirect _ _ =>
      push t
      simple fuel line .start [] [] []
    | t => unexpected t none

/-- Reads a branch after its first word, up to its last. -/
def branch (fuel : Nat) : Read Command :=
  match fuel with
  | 0 => fail .tooDeep
  | fuel + 1 => do
    let condition ← list fuel .filled []
    expect fuel {} "then"
    let body ← list fuel .filled []
    match ← token fuel {} with
    | .keyword "elif" =>
      let otherwise ← branch fuel
      return .branch condition body (some otherwise)
    | .keyword "else" =>
      let otherwise ← list fuel .filled []
      return .branch condition body (some otherwise)
    | t =>
      push t
      return .branch condition body none

/-- Reads a loop after its first word. -/
def loop (fuel : Nat) (negated : Bool) : Read Command :=
  match fuel with
  | 0 => fail .tooDeep
  | fuel + 1 => do
    let condition ← list fuel .filled []
    expect fuel {} "do"
    let body ← list fuel .filled []
    expect fuel {} "done"
    return .loop negated condition body

/-- Reads a loop over fields after its first word. -/
def each (fuel : Nat) (line : Nat) : Read Command :=
  match fuel with
  | 0 => fail .tooDeep
  | fuel + 1 => do
    let name ← match ← token fuel {} with
      | .word w =>
        match Word.bare? w with
        | some s => if isName s then pure s else fail .loopVariable
        | none => fail .loopVariable
      | _ => fail .loopVariable
    let t ← token fuel .startBelow
    let items ← match t with
      | .keyword "in" =>
        let ws ← words fuel []
        match ← token fuel {} with
        | .symbol "\n" | .symbol ";" => pure (some ws)
        | t => unexpected t none
      | .symbol ";" => pure none
      | t =>
        push t
        pure none
    expect fuel .startBelow "do"
    let body ← list fuel .filled []
    expect fuel {} "done"
    return .each line name items body

/-- Reads words. Those read before come latest first. -/
def words (fuel : Nat) (acc : List Word) : Read (List Word) :=
  match fuel with
  | 0 => fail .tooDeep
  | fuel + 1 => do
    match ← token fuel {} with
    | .word w => words fuel (w :: acc)
    | t =>
      push t
      return acc.reverse

/-- Reads a choice after its first word. -/
def choose (fuel : Nat) (line : Nat) : Read Command :=
  match fuel with
  | 0 => fail .tooDeep
  | fuel + 1 => do
    match ← token fuel {} with
    | .word subject =>
      expect fuel .startBelow "in"
      let arms ← arms fuel []
      return .choose line subject arms
    | t => unexpected t (some "word")

/-- Reads the arms of a choice, up to its last word. Those read before come latest first. -/
def arms (fuel : Nat) (acc : List (List Word × Command)) : Read (List (List Word × Command)) :=
  match fuel with
  | 0 => fail .tooDeep
  | fuel + 1 => do
    match ← token fuel { lines := true, keywords := true } with
    | .keyword "esac" => return acc.reverse
    | .symbol "(" =>
      let first ← token fuel {}
      let patterns ← patterns fuel first []
      armBody fuel patterns acc
    | first =>
      let patterns ← patterns fuel first []
      armBody fuel patterns acc

/-- Reads the body of an arm and the arms after it. -/
def armBody (fuel : Nat) (patterns : List Word) (acc : List (List Word × Command)) :
    Read (List (List Word × Command)) :=
  match fuel with
  | 0 => fail .tooDeep
  | fuel + 1 => do
    let body ← list fuel .any []
    let acc := (patterns, body) :: acc
    match ← token fuel { lines := true, keywords := true } with
    | .keyword "esac" => return acc.reverse
    | .symbol ";;" => arms fuel acc
    | t => unexpected t (some "\";;\"")

/-- Reads patterns with bars between them, up to the closing parenthesis, from the first on. -/
def patterns (fuel : Nat) (first : Token) (acc : List Word) : Read (List Word) :=
  match fuel with
  | 0 => fail .tooDeep
  | fuel + 1 => do
    let w := match first with
      | .word w => w
      | .keyword s => [.text s.toList false]
      | _ => []
    match ← token fuel {} with
    | .symbol "|" =>
      let next ← token fuel {}
      patterns fuel next (w :: acc)
    | .symbol ")" => return (w :: acc).reverse
    | t => unexpected t (some "\")\"")

/-- Reads the redirections after a command that joins others. -/
def redirected (fuel : Nat) (line : Nat) (c : Command) : Read Command :=
  match fuel with
  | 0 => fail .tooDeep
  | fuel + 1 => do
    let rs ← redirects fuel []
    match c, rs with
    | c, [] => return c
    | .subshell line body _, rs => return .subshell line body rs
    | c, rs => return .redirected line c rs

/-- Reads redirections. Those read before come latest first. -/
def redirects (fuel : Nat) (acc : List Redirect) : Read (List Redirect) :=
  match fuel with
  | 0 => fail .tooDeep
  | fuel + 1 => do
    match ← token fuel .start with
    | .redirect fd kind =>
      let r ← redirectTarget fuel fd kind
      redirects fuel (r :: acc)
    | t =>
      push t
      return acc.reverse

/-- Reads what a redirection leads to. -/
def redirectTarget (fuel : Nat) (fd : Nat) (kind : RedirectKind) : Read Redirect :=
  match fuel with
  | 0 => fail .tooDeep
  | fuel + 1 => do
    match kind, ← token fuel { mark := kind matches .document _ } with
    | .file opening, .word w => return .file fd opening w
    | .copy, .word w => return .copy fd w
    | .document strip, .word w =>
      let mark := w.flatMap fun p => match p with
        | .text s _ => s
        | _ => []
      let r ← get
      let waiting : Waiting := ⟨r.nextDocument, mark, Word.isQuoted w, strip⟩
      set { r with nextDocument := r.nextDocument + 1, waiting := r.waiting ++ [waiting] }
      return .document fd r.nextDocument
    | _, t => unexpected t none

/-- Reads a simple command, or the definition of a function. What was read before comes latest
first. -/
def simple (fuel : Nat) (line : Nat) (mode : Mode) (assignments : List (String × Word))
    (ws : List Word) (rs : List Redirect) : Read Command :=
  match fuel with
  | 0 => fail .tooDeep
  | fuel + 1 => do
    match ← token fuel { aliases := mode.aliases } with
    | .word w =>
      match ws, Word.assignment? w with
      | [], some a => simple fuel line mode (a :: assignments) ws rs
      | _, _ => simple fuel line {} assignments (w :: ws) rs
    | .redirect fd kind =>
      let r ← redirectTarget fuel fd kind
      simple fuel line mode assignments ws (r :: rs)
    | .symbol "(" =>
      match assignments, ws, rs with
      | [], [w], [] =>
        expect fuel {} ")"
        let name := (Word.bare? w).getD ""
        if !isName name || specialBuiltins.contains name then fail .functionName
        let line := (← get).line
        let body ← command fuel .startBelow
        return .define line name body
      | _, _, _ =>
        push (.symbol "(")
        return .simple line assignments.reverse ws.reverse rs.reverse
    | t =>
      push t
      return .simple line assignments.reverse ws.reverse rs.reverse

end

end Read

end AstCompare.Shell
