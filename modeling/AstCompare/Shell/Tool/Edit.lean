import AstCompare.Shell.Regex
import AstCompare.Shell.Tool.Listing

/-!
# Editing lines

The program reads its input line by line, lets a list of instructions change each line, and prints
it. An instruction may be restricted to lines by addresses. Blocks and jumps are resolved when the
instructions are read, so that running them is a walk along an array.

## Main definitions

* `Edit.Instruction`: one instruction.
* `Edit.read`: the instructions that a text describes.
* `Edit.Editor`, `Edit.step`: the state while instructions run, and one step.
* `editLines`: the program.
-/

namespace AstCompare.Shell.Tool

namespace Edit

/-! ### Instructions -/

/-- An expression; without one the last that was used is meant. -/
structure Finder where
  regex : Option Regex
  fold : Bool := false

/-- Which lines are meant. -/
inductive Address where
  | line (n : Nat)
  | last
  /-- A line and every so many after it. -/
  | every (first step : Nat)
  | found (f : Finder)

/-- Where a range of lines ends. -/
inductive RangeEnd where
  | at (a : Address)
  /-- So many lines later. -/
  | plus (n : Nat)
  /-- At a multiple. -/
  | multiple (n : Nat)

/-- A part of what is put in place of a match. -/
inductive Piece where
  | text (s : String)
  /-- What a group has found; zero stands for the whole match. -/
  | group (n : Nat)
  /-- From here on, or for one character, letters are changed. -/
  | letters (c : Char)

/-- What an instruction does. -/
inductive Action where
  | nothing
  /-- If the line is not meant, the block is skipped. -/
  | block (after : Nat)
  | replace (f : Finder) (pieces : List Piece) (all printed : Bool) (number : Nat)
      (file : Option String)
  | exchange (source target : List Char)
  | append (text : String)
  | insert (text : String)
  | change (text : String)
  | readFile (path : String)
  | writeFile (path : String)
  | jump (label : String)
  /-- A jump if something has been replaced, or if nothing has. -/
  | jumpIf (replaced : Bool) (label : String)
  | label (name : String)
  | quit (printed : Bool) (status : Nat)
  /-- Any other, by its letter. -/
  | simple (c : Char)

/-- An action for the lines that are meant. -/
structure Instruction where
  first : Option Address := none
  until? : Option RangeEnd := none
  negated : Bool := false
  action : Action

/-- The instruction asks whether a line is the last one. -/
def Instruction.asksForLast (i : Instruction) : Bool :=
  let isLast (a : Address) : Bool := a matches .last
  i.first.any isLast || (i.until?.any fun r => r matches .at .last) ||
    i.action matches .simple 'n' || i.action matches .simple 'N'

/-! ### Reading instructions -/

/-- What is left to read, how much has been read, and the expressions' way of writing. -/
structure Source where
  rest : List Char
  position : Nat := 0
  extended : Bool

/-- Why instructions cannot be read, and where if that is told. -/
abbrev Fault := Option Nat × String

/-- Reading takes characters away, or fails. -/
abbrev Parse := StateT Source (Except Fault)

/-- Fails at the present place. -/
def fail {α : Type} (s : String) : Parse α := do
  throw (some (← get).position, s)

/-- Takes one character. -/
def next : Parse (Option Char) := do
  let s ← get
  match s.rest with
  | [] => return none
  | c :: rest =>
    set { s with rest, position := s.position + 1 }
    return some c

/-- The next character. -/
def peek : Parse (Option Char) := do
  return (← get).rest.head?

/-- Takes the characters for which the test holds. -/
def takeWhile (p : Char → Bool) : Parse (List Char) := do
  let s ← get
  let cs := s.rest.takeWhile p
  set { s with rest := s.rest.drop cs.length, position := s.position + cs.length }
  return cs

/-- Takes blanks. -/
def blanks : Parse Unit := do
  discard <| takeWhile fun c => c == ' ' || c == '\t'

/-- A number, if one comes next. -/
def number? : Parse (Option Nat) := do
  let cs ← takeWhile Char.isDigit
  return (String.ofList cs).toNat?

/-- How far brackets have been read in an expression. -/
inductive Bracket where
  | members
  /-- Within a name that ends in this sign and a bracket. -/
  | name (sign : Char)
  deriving DecidableEq

/-- The characters up to a delimiter, and the rest after it. A backslash before the delimiter is
dropped, and in an expression `\n` is a line feed and brackets hide the delimiter. -/
def delimited (delimiter : Char) (isRegex : Bool) (bracket : Option Bracket) (taken : List Char) :
    List Char → Option (List Char × List Char)
  | [] => none
  | '\\' :: c :: cs =>
    if c == delimiter && c != '\\' then
      let kept := if isRegex then [c] else if c == '&' then [c, '\\'] else [c]
      delimited delimiter isRegex bracket (kept ++ taken) cs
    else if c == 'n' && isRegex then delimited delimiter isRegex bracket ('\n' :: taken) cs
    else delimited delimiter isRegex bracket (c :: '\\' :: taken) cs
  | c :: cs =>
    if isRegex && c == '\n' && bracket.isNone then none
    else
      match bracket with
      | none =>
        if c == delimiter then some (taken.reverse, cs)
        else if isRegex && c == '[' then
          match cs with
          | '^' :: ']' :: more =>
            delimited delimiter isRegex (some .members) (']' :: '^' :: c :: taken) more
          | ']' :: more => delimited delimiter isRegex (some .members) (']' :: c :: taken) more
          | cs => delimited delimiter isRegex (some .members) (c :: taken) cs
        else delimited delimiter isRegex none (c :: taken) cs
      | some .members =>
        let bracket := if c == ']' then none
          else if c == '[' then
            match cs with
            | ':' :: _ => some (.name ':')
            | '.' :: _ => some (.name '.')
            | '=' :: _ => some (.name '=')
            | _ => some .members
          else some .members
        delimited delimiter isRegex bracket (c :: taken) cs
      | some (.name sign) =>
        let ends := c == ']' && taken.head? == some sign
        delimited delimiter isRegex (some (if ends then .members else .name sign)) (c :: taken) cs

/-- Takes the characters up to a delimiter. -/
def takeDelimited (delimiter : Char) (isRegex : Bool) (problem : String) : Parse (List Char) := do
  let s ← get
  match delimited delimiter isRegex none [] s.rest with
  | none =>
    set { s with rest := [], position := s.position + s.rest.length }
    fail problem
  | some (cs, rest) =>
    set { s with rest, position := s.position + (s.rest.length - rest.length) }
    return cs

/-- Escapes for characters, which are replaced before an expression is read. -/
def unescape : List Char → List Char
  | '\\' :: 't' :: cs => '\t' :: unescape cs
  | '\\' :: 'f' :: cs => '\x0c' :: unescape cs
  | '\\' :: 'v' :: cs => '\x0b' :: unescape cs
  | '\\' :: 'a' :: cs => '\x07' :: unescape cs
  | '\\' :: 'r' :: cs => '\r' :: unescape cs
  | '\\' :: 'x' :: a :: b :: cs =>
    let value (c : Char) : Option Nat :=
      if c.isDigit then some (c.toNat - 48)
      else if 'a' ≤ c ∧ c ≤ 'f' then some (c.toNat - 87)
      else if 'A' ≤ c ∧ c ≤ 'F' then some (c.toNat - 55) else none
    match value a, value b with
    | some m, some n => Char.ofNat (m * 16 + n) :: unescape cs
    | _, _ => '\\' :: 'x' :: unescape (a :: b :: cs)
  | '\\' :: c :: cs => '\\' :: c :: unescape cs
  | c :: cs => c :: unescape cs
  | [] => []

/-- The expression that characters describe; none means the last one. -/
def finder (cs : List Char) (fold : Bool) : Parse Finder := do
  if cs.isEmpty then return ⟨none, fold⟩
  match Regex.parse { extended := (← get).extended } (unescape cs) with
  | .ok r => return ⟨some r, fold⟩
  | .error .classPlace => throw (none, Regex.Problem.classPlace.message)
  | .error e => fail e.message

/-- An address, if one comes next. -/
def address? : Parse (Option Address) := do
  match ← peek with
  | some '$' =>
    discard next
    return some .last
  | some '/' =>
    discard next
    let cs ← takeDelimited '/' true "unterminated address regex"
    let flags ← takeWhile fun c => c == 'I' || c == 'M'
    return some (.found (← finder cs (flags.contains 'I')))
  | some '\\' =>
    discard next
    match ← next with
    | some d =>
      let cs ← takeDelimited d true "unterminated address regex"
      let flags ← takeWhile fun c => c == 'I' || c == 'M'
      return some (.found (← finder cs (flags.contains 'I')))
    | none => fail "unterminated address regex"
  | some c =>
    if c.isDigit then
      let n := (← number?).getD 0
      if (← peek) == some '~' then
        discard next
        return some (.every n ((← number?).getD 0))
      return some (.line n)
    return none
  | none => return none

/-- The end of a range, after the comma. -/
def rangeEnd? : Parse (Option RangeEnd) := do
  match ← peek with
  | some '+' =>
    discard next
    return some (.plus ((← number?).getD 0))
  | some '~' =>
    discard next
    return some (.multiple ((← number?).getD 0))
  | _ => return (← address?).map .at

/-- The pieces of what is put in place of a match. -/
def piecesOf (text : List Char) : List Char → List Piece
  | '\\' :: c :: cs =>
    let before := if text.isEmpty then [] else [Piece.text (String.ofList text.reverse)]
    if c.isDigit then before ++ .group (c.toNat - 48) :: piecesOf [] cs
    else if ['U', 'L', 'u', 'l', 'E'].contains c then before ++ .letters c :: piecesOf [] cs
    else if c == 'n' then piecesOf ('\n' :: text) cs
    else piecesOf (c :: text) cs
  | '&' :: cs =>
    (if text.isEmpty then [] else [Piece.text (String.ofList text.reverse)]) ++
      .group 0 :: piecesOf [] cs
  | c :: cs => piecesOf (c :: text) cs
  | [] => if text.isEmpty then [] else [.text (String.ofList text.reverse)]

/-- The number of groups in an expression. -/
def groupCount : Regex → Nat
  | .group n r => max n (groupCount r)
  | .both a b | .either a b => max (groupCount a) (groupCount b)
  | .times _ _ r => groupCount r
  | _ => 0

/-- The options of a replacement. -/
structure Options where
  all : Bool := false
  printed : Bool := false
  fold : Bool := false
  number : Option Nat := none
  file : Option String := none

/-- Takes the name of a file, up to the end of the line. -/
def fileName : Parse String := do
  blanks
  let cs ← takeWhile (· != '\n')
  if cs.isEmpty then fail "missing filename in r/R/w/W commands"
  return String.ofList cs

/-- Reads the options of a replacement. `fuel` bounds their number. -/
def options (fuel : Nat) (o : Options) : Parse Options :=
  match fuel with
  | 0 => return o
  | fuel + 1 => do
    match ← peek with
    | some 'g' =>
      discard next
      if o.all then fail "multiple \x60g' options to \x60s' command"
      options fuel { o with all := true }
    | some 'p' =>
      discard next
      if o.printed then fail "multiple \x60p' options to \x60s' command"
      options fuel { o with printed := true }
    | some 'i' | some 'I' =>
      discard next
      options fuel { o with fold := true }
    | some 'm' | some 'M' | some 'e' =>
      discard next
      options fuel o
    | some 'w' =>
      discard next
      let name ← fileName
      return { o with file := some name }
    | some c =>
      if c.isDigit then
        let n := (← number?).getD 0
        if n == 0 then fail "number option to \x60s' command may not be zero"
        if o.number.isSome then fail "multiple number options to \x60s' command"
        options fuel { o with number := some n }
      else if [' ', '\t'].contains c then
        blanks
        options fuel o
      else if ['\n', ';', '\x7d', '#'].contains c then return o
      else
        discard next
        fail "unknown option to \x60s'"
    | none => return o

/-- The text of an instruction up to the end of its line, where a backslash protects the next
character. -/
def textOf : List Char → List Char × List Char
  | '\\' :: c :: cs => let (t, rest) := textOf cs; (c :: t, rest)
  | '\n' :: cs => ([], '\n' :: cs)
  | c :: cs => let (t, rest) := textOf cs; (c :: t, rest)
  | [] => ([], [])

/-- Takes the text of an instruction. -/
def takeText : Parse String := do
  blanks
  match ← peek with
  | none => fail "expected \\ after \x60a', \x60c' or \x60i'"
  | some '\\' =>
    discard next
    let kept ← takeWhile fun c => c == ' ' || c == '\t'
    if (← peek) == some '\n' then discard next
    else modify fun s => { s with rest := kept ++ s.rest, position := s.position - kept.length }
  | _ => pure ()
  let s ← get
  let (text, rest) := textOf s.rest
  set { s with rest, position := s.position + (s.rest.length - rest.length) }
  return String.ofList text ++ "\n"

/-- Takes the name of a label. -/
def labelName : Parse String := do
  blanks
  let cs ← takeWhile fun c => !(['\n', ';', ' ', '\t', '\x7d'].contains c)
  return String.ofList cs

/-- What may follow an instruction. -/
def finish : Parse Unit := do
  blanks
  match ← peek with
  | none | some '\x7d' | some '#' => pure ()
  | some '\n' | some ';' => discard next
  | some _ =>
    discard next
    fail "extra characters after command"

/-- The characters of an exchange, where a backslash protects itself. -/
def exchangeChars : List Char → List Char
  | '\\' :: '\\' :: cs => '\\' :: exchangeChars cs
  | '\\' :: 'n' :: cs => '\n' :: exchangeChars cs
  | c :: cs => c :: exchangeChars cs
  | [] => []

/-- Reads what an instruction does, by its letter. -/
def action (c : Char) : Parse Action := do
  match c with
  | 's' =>
    match ← next with
    | none => fail "unterminated \x60s' command"
    | some d =>
      let source ← takeDelimited d true "unterminated \x60s' command"
      let target ← takeDelimited d false "unterminated \x60s' command"
      let o ← options (← get).rest.length {}
      let f ← finder source o.fold
      let pieces := piecesOf [] (unescape target)
      match f.regex with
      | some r =>
        match pieces.find? fun p => match p with
          | .group n => groupCount r < n
          | _ => false with
        | some (.group n) =>
          fail ("invalid reference \\" ++ toString n ++ " on \x60s' command's RHS")
        | _ => pure ()
      | none => pure ()
      if o.file.isNone then finish
      return .replace f pieces o.all o.printed (o.number.getD 1) o.file
  | 'y' =>
    match ← next with
    | none => fail "unterminated \x60y' command"
    | some d =>
      let source := exchangeChars (← takeDelimited d false "unterminated \x60y' command")
      let target := exchangeChars (← takeDelimited d false "unterminated \x60y' command")
      if source.length != target.length then fail "strings for \x60y' command are different lengths"
      finish
      return .exchange source target
  | 'a' => return .append (← takeText)
  | 'i' => return .insert (← takeText)
  | 'c' => return .change (← takeText)
  | 'r' => return .readFile (← fileName)
  | 'w' => return .writeFile (← fileName)
  | ':' =>
    let name ← labelName
    if name.isEmpty then fail "\":\" lacks a label"
    return .label name
  | 'b' =>
    let name ← labelName
    finish
    return .jump name
  | 't' =>
    let name ← labelName
    finish
    return .jumpIf true name
  | 'T' =>
    let name ← labelName
    finish
    return .jumpIf false name
  | 'q' | 'Q' =>
    blanks
    let n := (← number?).getD 0
    finish
    return .quit (c == 'q') n
  | c =>
    if ['=', 'd', 'D', 'g', 'G', 'h', 'H', 'l', 'n', 'N', 'p', 'P', 'x', 'z', 'F'].contains c then
      finish
      return .simple c
    fail ("unknown command: \x60" ++ String.singleton c ++ "'")

/-- Reads instructions. `open` holds the places of blocks that are not closed, the innermost first;
instructions read before stand in an array. `fuel` bounds their number. -/
def instructions (fuel : Nat) (blocks : List Nat) (done : Array Instruction) :
    Parse (Array Instruction) :=
  match fuel with
  | 0 => return done
  | fuel + 1 => do
    discard <| takeWhile fun c => [' ', '\t', '\n', ';'].contains c
    match ← peek with
    | none =>
      if !blocks.isEmpty then throw (some 0, "unmatched \x60\x7b'")
      return done
    | some '#' =>
      discard <| takeWhile (· != '\n')
      instructions fuel blocks done
    | some _ =>
      let first ← address?
      let mut until? : Option RangeEnd := none
      if first.isSome then
        blanks
        if (← peek) == some ',' then
          discard next
          blanks
          until? ← rangeEnd?
          if until?.isNone then
            discard next
            fail "unexpected \x60,'"
      blanks
      let mut negated := false
      if (← peek) == some '!' then
        discard next
        discard <| takeWhile fun c => c == '!' || c == ' ' || c == '\t'
        negated := true
      match ← next with
      | none => fail "missing command"
      | some '\x7b' =>
        instructions fuel (done.size :: blocks) (done.push ⟨first, until?, negated, .block 0⟩)
      | some '\x7d' =>
        match blocks with
        | [] => fail "unexpected \x60\x7d'"
        | b :: blocks =>
          finish
          let done := done.push { action := .nothing }
          let done := done.modify b fun i => { i with action := .block done.size }
          instructions fuel blocks done
      | some c =>
        let zero := match first, until? with
          | some (.line 0), some (.at (.found _)) => false
          | some (.line 0), _ => true
          | _, _ => false
        if zero then fail "invalid usage of line address 0"
        let a ← action c
        instructions fuel blocks (done.push ⟨first, until?, negated, a⟩)

/-- The instructions that a text describes. -/
def read (extended : Bool) (text : List Char) : Except Fault (Array Instruction) := do
  let (is, _) ← (instructions (2 * text.length + 2) [] #[]).run ⟨text, 0, extended⟩
  return is

/-- The label of a jump that is not there. -/
def missingLabel? (is : Array Instruction) : Option String :=
  let labels := is.toList.filterMap fun i => match i.action with
    | .label name => some name
    | _ => none
  is.toList.findSome? fun i => match i.action with
    | .jump name | .jumpIf _ name =>
      if name.isEmpty || labels.contains name then none else some name
    | _ => none

/-! ### Running instructions -/

/-- The state while instructions run. -/
structure Editor where
  program : Array Instruction
  quiet : Bool
  /-- Between lines stands a zero instead of a line feed. -/
  zero : Bool := false
  disk : Disk
  /-- The lines that are still to come, and whether the very last one has an end. -/
  lines : List String
  ended : Bool
  number : Nat := 0
  space : String := ""
  hold : String := ""
  /-- What is printed when the present line is done. -/
  queue : List (String ⊕ String) := []
  /-- What has been printed, the latest first, and whether its last line lacks its end. -/
  out : List String := []
  owed : Bool := false
  replaced : Bool := false
  /-- The ranges that have begun, with the line on which they end if it is known. -/
  active : List (Nat × Option Nat) := []
  last : Option Regex := none
  place : Nat := 0
  /-- What has been written into files, the latest first. -/
  written : List (String × String) := []
  finished : Option Nat := none
  /-- It was an instruction that ended it. -/
  left : Bool := false

namespace Editor

/-- The end of a line. -/
def mark (e : Editor) : String :=
  if e.zero then "\x00" else "\n"

/-- Prints text that has its own line ends. -/
def emit (e : Editor) (s : String) : Editor :=
  { e with out := s :: (if e.owed then [e.mark] else []) ++ e.out, owed := false }

/-- The present line is the last one. -/
def atLast (e : Editor) : Bool :=
  e.lines.isEmpty

/-- Prints a line, whose end is left out if the input had none. -/
def emitLine (e : Editor) (s : String) : Editor :=
  if e.atLast && !e.ended then { e.emit s with owed := true } else e.emit (s ++ e.mark)

/-- Prints what has been queued. -/
def emitQueue (e : Editor) : Editor :=
  e.queue.foldl (fun e q => match q with
    | .inl s => e.emit s
    | .inr path =>
      match e.disk.read (unoctets path) with
      | .ok c =>
        let s := Data.text c.toBytes
        if s.isEmpty then e else e.emit s
      | .error _ => e) { e with queue := [] }

/-- Takes the next line into the present one. -/
def takeLine (e : Editor) : Editor :=
  match e.lines with
  | l :: ls => { e with space := l, lines := ls, number := e.number + 1 }
  | [] => e

/-- Ends the work on the present line and starts with the next one. -/
def nextLine (e : Editor) (printed : Bool) : Editor :=
  let e := if printed && !e.quiet then e.emitLine e.space else e
  let e := e.emitQueue
  if e.lines.isEmpty then { e with finished := some 0 }
  else { e.takeLine with place := 0, replaced := false }

/-- The expression that a finder means. -/
def regexOf (e : Editor) (f : Finder) : Regex :=
  (f.regex.or e.last).getD .empty

/-- The address means the present line. -/
def meets (e : Editor) : Address → Bool
  | .line n => e.number == n
  | .last => e.atLast
  | .every first step =>
    if step == 0 then e.number == first else first ≤ e.number && (e.number - first) % step == 0
  | .found f => ((e.regexOf f).search f.fold none e.space.toList).isSome

/-- Remembers the expression that an address used. -/
def remember (e : Editor) : Address → Editor
  | .found ⟨some r, _⟩ => { e with last := some r }
  | _ => e

/-- Begins a range whose first line is the present one. -/
def beginRange (e : Editor) (place : Nat) (stop : RangeEnd) : Editor :=
  let until? : Option (Option Nat) := match stop with
    | .at (.line n) => if n ≤ e.number then none else some (some n)
    | .at .last => if e.atLast then none else some none
    | .at _ => some none
    | .plus n => if n == 0 then none else some (some (e.number + n))
    | .multiple n =>
      if n == 0 || e.number % n == 0 then none else some (some ((e.number / n + 1) * n))
  match until? with
  | some u => { e with active := (place, u) :: e.active }
  | none => e

/-- Whether the instruction at a place is for the present line. -/
def selects (e : Editor) (place : Nat) (i : Instruction) : Bool × Editor :=
  match i.first, i.until? with
  | none, _ => (!i.negated, e)
  | some a, none => (e.meets a != i.negated, e.remember a)
  | some a, some stop =>
    let close (e : Editor) : Editor := { e with active := e.active.filter fun x => x.1 != place }
    match e.active.lookup place with
    | some (some n) =>
      if n < e.number then
        -- The range has been left behind by a jump over its end.
        let e := close e
        if e.meets a then (!i.negated, e.beginRange place stop) else (i.negated, e)
      else (!i.negated, if n == e.number then close e else e)
    | some none =>
      match stop with
      | .at b => (!i.negated, if e.meets b then close (e.remember b) else e.remember b)
      | _ => (!i.negated, e)
    | none =>
      let zeroStart := match a with
        | .line 0 => e.number == 1
        | _ => false
      if zeroStart then
        match stop with
        | .at b => (!i.negated,
            if e.meets b then e.remember b else { e with active := (place, none) :: e.active })
        | _ => (!i.negated, e)
      else if e.meets a then (!i.negated, (e.remember a).beginRange place stop)
      else (i.negated, e)

/-- Letters changed by a mode: `U` and `L` for all of them, `u` and `l` for the next one. -/
def recase (mode : Char) (once : Option Char) : List Char → List Char
  | [] => []
  | c :: cs =>
    let c' := match once with
      | some 'u' => c.toUpper
      | some 'l' => c.toLower
      | _ => if mode == 'U' then c.toUpper else if mode == 'L' then c.toLower else c
    c' :: recase mode none cs

/-- What is put in place of a match. -/
def fill (m : Regex.Match) (mode : Char) (once : Option Char) : List Piece → List Char
  | [] => []
  | .letters c :: ps =>
    if c == 'u' || c == 'l' then fill m mode (some c) ps else fill m c none ps
  | .text s :: ps =>
    recase mode once s.toList ++ fill m mode (if s.isEmpty then once else none) ps
  | .group n :: ps =>
    let cs := if n == 0 then m.text else (m.groups.lookup n).getD []
    recase mode once cs ++ fill m mode (if cs.isEmpty then once else none) ps

/-- Replaces matches from the `number`-th on, or that one only. The result is reversed; `fuel`
bounds the number of matches, and `count` is that of those before. -/
def replaceFrom (r : Regex) (fold all : Bool) (number : Nat) (pieces : List Piece)
    (fuel count : Nat) (before : Option Char) (afterMatch : Bool) (acc : List Char)
    (cs : List Char) : List Char × Bool :=
  match fuel with
  | 0 => (cs.reverse ++ acc, false)
  | fuel + 1 =>
    match r.search fold before cs with
    | none => (cs.reverse ++ acc, false)
    | some m =>
      let acc := m.front.reverse ++ acc
      if m.text.isEmpty && m.front.isEmpty && afterMatch then
        -- An empty match right after another one does not count.
        match m.rest with
        | [] => (acc, false)
        | c :: rest =>
          replaceFrom r fold all number pieces fuel count (some c) false (c :: acc) rest
      else
        let count := count + 1
        let hit := number ≤ count
        let acc := (if hit then fill m 'E' none pieces else m.text).reverse ++ acc
        if hit && !all then (m.rest.reverse ++ acc, true)
        else
          let last := (m.text.getLast?.or m.front.getLast?).or before
          let (out, more) :=
            if m.text.isEmpty then
              match m.rest with
              | [] => (acc, false)
              | c :: rest =>
                replaceFrom r fold all number pieces fuel count (some c) false (c :: acc) rest
            else replaceFrom r fold all number pieces fuel count last true acc m.rest
          (out, hit || more)

/-- The place of a label, or the end. -/
def target (e : Editor) (name : String) : Nat :=
  if name.isEmpty then e.program.size
  else
    (e.program.findIdx? fun i => match i.action with
      | .label n => n == name
      | _ => false).getD e.program.size

/-- The line as it is shown with all its signs. -/
def revealed (s : String) : String :=
  String.join (s.toList.map fun c =>
    match c with
    | '\\' => "\\\\"
    | '\t' => "\\t"
    | '\n' => "\\n"
    | '\r' => "\\r"
    | '\x07' => "\\a"
    | '\x08' => "\\b"
    | '\x0b' => "\\v"
    | '\x0c' => "\\f"
    | c =>
      if 32 ≤ c.toNat && c.toNat < 127 then String.singleton c
      else
        let ds := Nat.toDigits 8 c.toNat
        "\\" ++ String.ofList (List.replicate (3 - ds.length) '0' ++ ds)) ++ "$"

/-- Writes into a file, or prints where the name stands for the output. -/
def writeTo (e : Editor) (path s : String) : Editor :=
  if path == "/dev/stdout" then e.emit (s ++ e.mark)
  else { e with written := (path, s ++ "\n") :: e.written }

/-- Carries out an instruction that is named by its letter. -/
def simple (e : Editor) : Char → Editor
  | '=' => e.emit (toString e.number ++ "\n")
  | 'd' => e.nextLine false
  | 'D' =>
    if e.space.contains '\n' then
      let rest := "\n".intercalate (e.space.splitOn "\n").tail
      { e.emitQueue with space := rest, place := 0 }
    else e.nextLine false
  | 'g' => { e with space := e.hold }
  | 'G' => { e with space := e.space ++ "\n" ++ e.hold }
  | 'h' => { e with hold := e.space }
  | 'H' => { e with hold := e.hold ++ "\n" ++ e.space }
  | 'l' => e.emit (revealed e.space ++ "\n")
  | 'n' =>
    if e.atLast then e.nextLine true
    else
      let e := if e.quiet then e else e.emitLine e.space
      e.emitQueue.takeLine
  | 'N' =>
    if e.atLast then e.nextLine true
    else
      let e' := e.emitQueue.takeLine
      { e' with space := e.space ++ "\n" ++ e'.space }
  | 'p' => e.emitLine e.space
  | 'P' => e.emit ((e.space.splitOn "\n").headD "" ++ e.mark)
  | 'x' => { e with space := e.hold, hold := e.space }
  | 'z' => { e with space := "" }
  | 'F' => e.emit "-\n"
  | _ => e

/-- One step: the instruction at the present place, or the next line after the last one. -/
def step (e : Editor) : Editor :=
  match e.program[e.place]? with
  | none => e.nextLine true
  | some i =>
    let (hit, e') := e.selects e.place i
    let e' := { e' with place := e.place + 1 }
    if !hit then
      match i.action with
      | .block after => { e' with place := after }
      | _ => e'
    else
      match i.action with
      | .nothing | .block _ | .label _ => e'
      | .replace f pieces all printed number file =>
        let r := e'.regexOf f
        let (out, done) :=
          replaceFrom r f.fold all number pieces (e'.space.length + 2) 0 none false []
            e'.space.toList
        let e' := { e' with last := some r }
        if done then
          let e' := { e' with space := String.ofList out.reverse, replaced := true }
          let e' := if printed then e'.emitLine e'.space else e'
          match file with
          | some path => e'.writeTo path e'.space
          | none => e'
        else e'
      | .exchange source target =>
        { e' with space := e'.space.map fun c => ((source.zip target).lookup c).getD c }
      | .append text => { e' with queue := e'.queue ++ [.inl text] }
      | .insert text => e'.emit text
      | .change text =>
        let inRange := i.until?.isSome && !i.negated && (e'.active.lookup e.place).isSome
        (if inRange then e' else e'.emit text).nextLine false
      | .readFile path => { e' with queue := e'.queue ++ [.inr path] }
      | .writeFile path => e'.writeTo path e'.space
      | .jump name => { e' with place := e'.target name }
      | .jumpIf wanted name =>
        if e'.replaced == wanted then { e' with place := e'.target name, replaced := false }
        else { e' with replaced := false }
      | .quit printed status =>
        let e' := if printed then (if e'.quiet then e' else e'.emitLine e'.space).emitQueue else e'
        { e' with finished := some status, left := true }
      | .simple c => e'.simple c

/-- Runs until the end, but `fuel` steps at most. -/
def run (fuel : Nat) (e : Editor) : Editor :=
  match fuel with
  | 0 => e
  | fuel + 1 => if e.finished.isSome then e else run fuel e.step

/-- Runs instructions on lines from the first on. -/
def start (e : Editor) : Editor :=
  if e.lines.isEmpty then e else (e.takeLine).run (10000 + 200 * (e.lines.length + 1))

end Editor

end Edit

/-- Lines of a text that end in a line feed or in a zero. -/
def editedLines (zero : Bool) (s : String) : List String :=
  if zero then
    match (s.splitOn "\x00").reverse with
    | "" :: rest => rest.reverse
    | ls => ls.reverse
  else linesOf s

/-- Edits lines. -/
def editLines : Tool := fun args =>
  let names := [("quiet", 'n'), ("silent", 'n'), ("expression", 'e'), ("regexp-extended", 'E'),
    ("file", 'f'), ("separate", 's'), ("null-data", 'z'), ("posix", 'u'), ("unbuffered", 'u')]
  -- The ending for kept files may be attached to the option for editing in place.
  let inPlace := args.find? fun s => s.startsWith "-i" || s.startsWith "--in-place"
  let args := args.filter fun s => !(s.startsWith "-i" || s.startsWith "--in-place")
  withArguments "sed" "nErsuzl" "ef" 1 (spellOut names args) fun a => do
    let mut text : List String := []
    for (kind, value) in a.values do
      if kind == 'e' then text := text ++ [value]
      else
        match ← readFile value with
        | .ok d =>
          let s := d.text
          text := text ++ [if s.endsWith "\n" then (s.dropEnd 1).toString else s]
        | .error e => complain ("sed: couldn't open file " ++ value ++ ": " ++ e.reason) 4
    if (← get).status != 0 then return
    let (script, files) := if a.values.isEmpty then (a.others.head?, a.others.tail)
      else (some ("\n".intercalate text), a.others)
    match script with
    | none =>
      complain "Usage: sed [OPTION]... \x7bscript-only-if-no-other-script\x7d [input-file]..." 1
    | some script =>
      match Edit.read (a.has 'E' || a.has 'r') script.toList with
      | .error (none, problem) => complain ("sed: " ++ problem) 4
      | .error (some position, problem) =>
        -- The place is told within the part of the script in which it lies.
        let (number, position) := ((if a.values.isEmpty then [script] else text).foldl
          (fun (n, position, found) part =>
            if found || position ≤ part.length + 1 then (n, position, true)
            else (n + 1, position - (part.length + 1), false)) (1, position, false)
          |> fun (n, position, _) => (n, position))
        complain ("sed: -e expression #" ++ toString number ++ ", char " ++
          toString position ++ ": " ++ problem) 1
      | .ok program =>
        match Edit.missingLabel? program with
        | some name => complain ("sed: can't find label for jump to \x60" ++ name ++ "'") 4
        | none =>
          if inPlace.isSome && files.isEmpty then complain "sed: no input files" 1
          else go a program inPlace files
where
  /-- Edits one text, and tells what is printed and how many lines have not been looked at. -/
  edit (a : Arguments) (program : Array Edit.Instruction) (s : String) :
      Doing (String × List String × Bool) := do
    let zero := a.has 'z'
    let e : Edit.Editor :=
      { program, zero, quiet := a.has 'n', disk := (← get).disk, lines := editedLines zero s
        ended := s.endsWith (if zero then "\x00" else "\n") }
    let e := e.start
    atLeast (e.finished.getD 0)
    for path in e.written.reverse.map Prod.fst |>.eraseDups do
      let text :=
        String.join (e.written.reverse.filterMap fun (p, t) => if p == path then some t else none)
      match ← writeFile path (.ofText text) with
      | some e => complain ("sed: couldn't open file " ++ path ++ ": " ++ e.reason) 4
      | none => pure ()
    return (String.join e.out.reverse, e.lines,
      e.left && !(e.lines.isEmpty && program.any Edit.Instruction.asksForLast))
  /-- Edits the input, of which no more is taken than is needed. -/
  editInput (a : Arguments) (program : Array Edit.Instruction) : Doing Unit := do
    let text ← wholeLines
    let (out, left, early) ← edit a program text
    say out
    if early then consume 4096 (text.length - (left.foldl (fun n l => n + l.length + 1) 0))
    else discard takeInput
  /-- Puts a text into a file that takes the place of the present one. -/
  replaceFile (p : String) (d : Data) : Doing Unit := do
    match ← stat p with
    | .ok (l, .file _ _ b) =>
      if !(← get).disk.mayChange l then
        complain ("sed: couldn't open temporary file " ++ parentPart p ++
          "/sedXXXXXX: Permission denied") 4
      else
        discard <| change fun disk =>
          .ok ((disk.erase l).addFile l (.bytes d) { b with modified := disk.now })
    | _ => discard <| writeFile p d
  /-- Edits the files. -/
  go (a : Arguments) (program : Array Edit.Instruction) (inPlace : Option String)
      (files : List String) : Doing Unit := do
    if inPlace.isNone && (files.isEmpty || files == ["-"]) then
      editInput a program
      return
    let parts ← files.mapM fun p => do
      if p == "-" && inPlace.isNone then return (p, some (← takeInput))
      match ← readFile p with
      | .ok d => return (p, some d)
      | .error .isDirectory =>
        complain (if inPlace.isSome then "sed: couldn't edit " ++ p ++ ": not a regular file"
          else "sed: couldn't edit " ++ p ++ ": read error on " ++ p ++ ": Is a directory") 4
        return (p, none)
      | .error e =>
        complain ("sed: can't read " ++ p ++ ": " ++ e.reason) 2
        return (p, none)
    match inPlace with
    | some option =>
      let ending := ((option.dropPrefix "-i").toString.dropPrefix "n-place=").toString
      for (p, d) in parts do
        match d with
        | some d =>
          let (out, left, _) ← edit a program d.text
          if !ending.isEmpty then discard <| writeFile (p ++ ending) d
          replaceFile p (.ofText (out ++ joinLines left))
        | none => pure ()
    | none =>
      if a.has 's' then
        for (_, d) in parts do
          say (← edit a program (d.getD .empty).text).1
      else
        let texts := parts.map fun (_, d) => (d.getD .empty).text
        -- The lines of two files are never joined.
        let joined :=
          texts.dropLast.map (fun s => if s.isEmpty || s.endsWith "\n" then s else s ++ "\n")
        say (← edit a program (String.join joined ++ texts.getLast?.getD "")).1

end AstCompare.Shell.Tool
