import AstCompare.Shell.Regex
import AstCompare.Shell.Tool.Files

/-!
# Searching for lines

The program prints the lines that match one of its patterns, or counts them, or only tells whether
there are any.

## Main definitions

* `Seek`: what is looked for, and how.
* `searchLines`: the program.
-/

namespace AstCompare.Shell.Tool

/-- What is looked for, and how. -/
structure Seek where
  patterns : List Regex
  fold : Bool
  inverted : Bool

/-- The line is one of those that are wanted. -/
def Seek.wants (k : Seek) (l : String) : Bool :=
  (k.patterns.any fun r => (r.search k.fold none l.toList).isSome) != k.inverted

/-- The earliest and longest match of the patterns. -/
def Seek.best (k : Seek) (before : Option Char) (cs : List Char) : Option Regex.Match :=
  (k.patterns.filterMap fun r => r.search k.fold before cs).foldl (fun best m =>
    match best with
    | none => some m
    | some b =>
      if m.front.length < b.front.length ||
          (m.front.length == b.front.length && b.text.length < m.text.length) then some m
      else some b) none

/-- The matches in a line that are not empty. `fuel` bounds their number. -/
def Seek.pieces (k : Seek) (fuel : Nat) (before : Option Char) (cs : List Char) : List String :=
  match fuel with
  | 0 => []
  | fuel + 1 =>
    match k.best before cs with
    | none => []
    | some m =>
      if m.text.isEmpty then
        match m.rest with
        | [] => []
        | c :: rest => k.pieces fuel (some c) rest
      else String.ofList m.text :: k.pieces fuel m.text.getLast? m.rest

/-- The expression that a pattern describes, by the flags. -/
def patternOf (flags : List Char) (pattern : String) : Except Regex.Problem Regex := do
  let r ← if flags.contains 'F' then
      pure (pattern.toList.foldl (fun r c => .both r (.exactly c)) Regex.empty)
    else
      let extended := flags.contains 'E' || flags.contains 'P'
      Regex.parse { extended, lenient := true, hasDigits := flags.contains 'P' } pattern.toList
  let r := if flags.contains 'w' then .both .noWordBefore (.both r .noWordAfter) else r
  return if flags.contains 'x' then .both .start (.both r .finish) else r

/-- A line that is shown. -/
structure Row where
  place : Nat
  /-- The number of bytes before it. -/
  offset : Nat
  text : String
  isHit : Bool

/-- What has been seen of the lines so far. -/
structure Sweep where
  place : Nat := 0
  offset : Nat := 0
  /-- Lines that are shown if a wanted one follows soon, the latest first. -/
  held : List Row := []
  /-- How many lines are shown in any case. -/
  due : Nat := 0
  /-- How many wanted lines are still asked for. -/
  left : Option Nat := none
  /-- The lines that are shown, the latest first. -/
  rows : List Row := []

/-- Looks at one line. -/
def Sweep.see (k : Seek) (before after : Nat) (s : Sweep) (l : String) : Sweep :=
  let s' := { s with place := s.place + 1, offset := s.offset + l.length + 1 }
  let row (isHit : Bool) : Row := ⟨s.place, s.offset, l, isHit⟩
  if s.left != some 0 && k.wants l then
    { s' with
      held := [], due := after, left := s.left.map (· - 1),
      rows := row true :: (s.held ++ s.rows) }
  else if 0 < s.due then { s' with due := s.due - 1, rows := row false :: s.rows }
  else { s' with held := (row false :: s.held).take before }

/-- The lines that are shown: at most `limit` of those that are wanted, and some before and after
each. -/
def Seek.rows (k : Seek) (limit : Option Nat) (before after : Nat) (ls : List String) : List Row :=
  (ls.foldl (Sweep.see k before after) { left := limit }).rows.reverse

/-- The pieces of a line, each with its place in it. -/
def placed (text : String) (pieces : List String) : List (Nat × String) :=
  (pieces.foldl (fun (found, passed, rest) p =>
    match (rest.splitOn p).head? with
    | some front =>
      let start := passed + front.length
      ((start, p) :: found, start + p.length, (rest.drop (front.length + p.length)).toString)
    | none => (found, passed, rest)) ([], 0, text)).1.reverse

/-- Which files are searched below directories, by patterns for names. -/
structure Choice where
  included : List String := []
  excluded : List String := []
  /-- Directories that are not entered. -/
  closed : List String := []

/-- A name fits one of the patterns. -/
def fitsAny (patterns : List String) (name : String) : Bool :=
  patterns.any fun p => Pattern.fits (Pattern.parse (p.toList.map (·, false))) name.toList

/-- A file of this name is searched. -/
def Choice.takes (c : Choice) (name : String) : Bool :=
  (c.included.isEmpty || fitsAny c.included name) && !fitsAny c.excluded name

/-- The files that are searched: with `deep` all below directories, where only with `follow` links
lead on. What cannot be opened is told as it is. -/
def searched (deep follow : Bool) (choice : Choice) (d : Disk) (paths : List String) :
    List String :=
  paths.flatMap fun p =>
    let last := (p.splitOn "/").getLastD p
    match deep, d.stat (unoctets p) with
    | true, .ok (l, .directory a) =>
      if fitsAny choice.closed last then []
      else if !a.allows .read then [p]
      else
        ((d.below l).filterMap fun (k, e) =>
          let names := k.map octets
          let inner := within p ("/".intercalate names)
          if (names.dropLast.any (fitsAny choice.closed)) ||
              !choice.takes (names.getLastD "") then
            none
          else match e with
          | .file _ _ _ => some inner
          | .link _ => if follow && d.isFile (unoctets inner) then some inner else none
          | _ => none).mergeSort fun a b => decide (a ≤ b)
    | _, .ok (_, .directory _) => [p]
    | _, _ => if p == "-" || choice.takes last then [p] else []

/-- The number of bytes that are read from a pipe together. -/
def readingSize : Nat := 65536

/-- Takes the input. If only so many lines are wanted it is taken only as far as they reach, where
with `rest` nothing is given back. -/
def takeUntilFound (limit : Option Nat) (rest : Bool) (k : Seek) : Doing Data := do
  match limit with
  | none => takeInput
  | some n =>
    let ls := linesOf (← wholeLines)
    -- The lines up to the one with which there are enough, and how many are still wanted.
    let (passed, missing) := ls.foldl (fun (passed, missing) l =>
      if missing = 0 then (passed, missing)
      else (passed + l.length + 1, if k.wants l then missing - 1 else missing)) (0, n)
    if missing != 0 then takeInput
    else
      let w ← get
      consume readingSize (if rest && w.seekable then w.input.size else passed)
      return w.input.take passed

/-- How options that have only names are told apart. -/
def choiceLetters : List (String × Char) :=
  [("include", '\x01'), ("exclude", '\x02'), ("exclude-dir", '\x03'), ("label", '\x04'),
    ("group-separator", '\x05'), ("no-group-separator", '\x06'), ("line-buffered", '\x07'),
    ("no-ignore-case", '\x08'), ("binary-files", '\x0e')]

/-- A width of context. -/
def contextWidth? (s : String) : Except String Nat :=
  match number? s with
  | some n => .ok n
  | none => .error (s ++ ": invalid context length argument")

/-- Prints the lines that match a pattern. -/
def searchLines (name : String) (extra : List Char) : Tool := fun args =>
  let names := [("quiet", 'q'), ("silent", 'q'), ("invert-match", 'v'), ("count", 'c'),
    ("ignore-case", 'i'), ("line-number", 'n'), ("files-with-matches", 'l'), ("only-matching", 'o'),
    ("extended-regexp", 'E'), ("fixed-strings", 'F'), ("basic-regexp", 'G'), ("perl-regexp", 'P'),
    ("regexp", 'e'), ("word-regexp", 'w'), ("line-regexp", 'x'), ("no-filename", 'h'),
    ("with-filename", 'H'), ("no-messages", 's'), ("max-count", 'm'), ("recursive", 'r'),
    ("dereference-recursive", 'R'), ("after-context", 'A'), ("before-context", 'B'),
    ("context", 'C'), ("file", 'f'), ("files-without-match", 'L'), ("text", 'a'),
    ("byte-offset", 'b'), ("null", 'Z'), ("null-data", 'z'), ("initial-tab", 'T'), ("binary", 'U'),
    ("directories", 'd'), ("devices", 'D')]
  let a := readArguments "qvcinloEFGPwxhHsrRLaybUzIZT0123456789\x06\x07\x08".toList
    "eAmBCfdD\x01\x02\x03\x04\x05\x0e".toList true {} none
    (spellOut (names ++ choiceLetters) (args.filter fun s => !s.startsWith "--color"))
  let usage := "Usage: grep [OPTION]... PATTERNS [FILE]...\nTry 'grep --help' for more information."
  match a.unknown, a.missing with
  | some c, _ =>
    let what := if c == '-' then "unrecognized option '" ++
        (args.find? fun s => s.startsWith "--" && s != "--").getD "" ++ "'"
      else "invalid option -- '" ++ String.singleton c ++ "'"
    complain (name ++ ": " ++ what ++ "\n" ++ usage) 2
  | none, some c =>
    complain (name ++ ": option requires an argument -- '" ++ String.singleton c ++
      "'\n" ++ usage) 2
  | none, none => do
    let flags := extra ++ a.flags
    let kinds := (flags.filter fun c => "EFGP".contains c).eraseDups
    match (a.values.filter fun (c, _) => "ABC".contains c).mapM fun (_, v) => contextWidth? v with
    | .error problem => return ← complain (name ++ ": " ++ problem) 2
    | .ok _ => pure ()
    if ((a.value? 'm').map fun v => (decimal? v).isNone).getD false then
      return ← complain (name ++ ": invalid max count") 2
    match a.value? 'd' with
    | none | some "read" | some "skip" | some "recurse" => pure ()
    | some other =>
      return ← complain (name ++ ": invalid argument '" ++ other ++ "' for '--directories'\n" ++
        "Valid arguments are:\n  - 'read'\n  - 'recurse'\n  - 'skip'\n" ++ usage) 2
    if 1 < kinds.length && extra.isEmpty then
      return ← complain (name ++ ": conflicting matchers specified") 2
    let given := (a.values.filter (·.1 == 'e')).map Prod.snd
    let mut fromFile : Option (List String) := none
    match a.value? 'f' with
    | some p =>
      match ← source name p 2 with
      | some d => fromFile := some (linesOf d.text)
      | none => pure ()
    | none => pure ()
    if (← get).status != 0 then return
    let explicit := !given.isEmpty || fromFile.isSome
    match explicit, a.others with
    | false, [] => complain usage 2
    | _, _ =>
      let split (s : String) : List String := s.splitOn "\n"
      let texts :=
        if explicit then given.flatMap split ++ fromFile.getD [] else split (a.others.headD "")
      let files := if explicit then a.others else a.others.tail
      if flags.contains 'E' then
        for t in texts do
          for sign in Regex.emptyRepetitions (t.length + 1) true t.toList do
            warn (name ++ ": warning: " ++ sign ++ " at start of expression")
      match texts.mapM (patternOf flags) with
      | .error e =>
        let single := e = .bracket && texts == ["["]
        complain (name ++ ": " ++ if single then "Invalid regular expression" else e.message) 2
      | .ok patterns =>
        let fold := (flags.contains 'i' || flags.contains 'y') && !flags.contains '\x08'
        go flags a ⟨patterns, fold, flags.contains 'v'⟩ files
where
  /-- A whole number, if the text is one. -/
  decimal? (s : String) : Option Int :=
    match s.toList with
    | '-' :: cs => (number? (String.ofList cs)).map fun n => -Int.ofNat n
    | _ => (number? s).map Int.ofNat
  /-- Searches the files. -/
  go (flags : List Char) (a : Arguments) (k : Seek) (files : List String) : Doing Unit := do
    let has (c : Char) : Bool := flags.contains c
    let deep := has 'r' || has 'R' || a.value? 'd' == some "recurse"
    let paths := if files.isEmpty then (if deep then ["."] else ["-"]) else files
    -- Paths below the working directory, which nobody has named, are told without it.
    let told (p : String) : String :=
      if files.isEmpty && p.startsWith "./" then (p.drop 2).toString else p
    let valuesOf (c : Char) : List String := (a.values.filter (·.1 == c)).map Prod.snd
    let all :=
      searched deep (has 'R') ⟨valuesOf '\x01', valuesOf '\x02', valuesOf '\x03'⟩ (← get).disk paths
    let named := has 'H' || (!has 'h' && (1 < paths.length || deep))
    let number (c : Char) : Option Nat := (a.value? c).bind number?
    let around := (number 'C').or (number? (String.ofList (flags.filter Char.isDigit)))
    let before := (number 'B').or around
    let after := (number 'A').or around
    let parts := (before.isSome || after.isSome) && !has '\x06'
    let listed := has 'l' || has 'L'
    -- A number below zero sets no limit.
    let most := ((a.value? 'm').bind decimal?).bind fun n => if n < 0 then none else some n.toNat
    if most == some 0 then return ← atLeast 1
    let mut found := false
    let mut failed := false
    let mut printed := false
    for p in all do
      if has 'q' && found then break
      let limit := if has 'q' || listed then some 1 else most
      let d ← if p == "-" then do pure (some (← takeUntilFound limit (has 'q' || listed) k))
        else do
          match ← readFile p with
          | .ok d => pure (some d)
          | .error .isDirectory =>
            if a.value? 'd' == some "skip" then pure (some .empty)
            else
              failed := true
              let e := if deep then DiskError.refused else .isDirectory
              if !has 's' then warn (name ++ ": " ++ told p ++ ": " ++ e.reason)
              pure (if deep then none else some .empty)
          | .error e =>
            if !has 's' then warn (name ++ ": " ++ told p ++ ": " ++ e.reason)
            pure none
      match d with
      | none => failed := true
      | some d =>
        let shownName := if p == "-" then (a.value? '\x04').getD "(standard input)" else told p
        let text := if has 'z' then swapEnds d.text else d.text
        let silent := has 'q' || listed || has 'c' || has 'o'
        let width (n : Option Nat) : Nat := if silent then 0 else n.getD 0
        let rows := k.rows limit (width before) (width after) (linesOf text)
        let hits := rows.countP Row.isHit
        if hits != 0 then found := true
        let mark (sep : String) (place offset : Nat) : String :=
          let tab := has 'T' && (named || has 'n' || has 'b')
          let wide (n least : Nat) : String :=
            let digits := toString n
            if tab then "".pushn ' ' (least - digits.length) ++ digits else digits
          (if named then shownName ++ (if has 'Z' then "\x00" else sep) else "") ++
            (if has 'n' then wide (place + 1) 2 ++ sep else "") ++
            (if has 'b' then wide offset 3 ++ sep else "") ++ (if tab then "\t" else "")
        if has 'q' then pure ()
        else if listed then
          if (hits == 0) == has 'L' then say (shownName ++ if has 'Z' then "\x00" else "\n")
        else if has 'c' then
          say ((if named then shownName ++ (if has 'Z' then "\x00" else ":") else "") ++
            toString hits ++ "\n")
        else if text.contains '\x00' && !has 'a' && !has 'z' && a.value? '\x0e' != some "text" then
          if hits != 0 && !has 'I' then warn (name ++ ": " ++ shownName ++ ": binary file matches")
        else if has 'o' then
          if !has 'v' then
            for r in rows do
              let pieces := placed r.text (k.pieces (r.text.length + 1) none r.text.toList)
              let out :=
                joinLines (pieces.map fun (start, s) => mark ":" r.place (r.offset + start) ++ s)
              say (if has 'z' then swapEnds out else out)
        else
          let mut last : Option Nat := none
          for r in rows do
            if parts && (if last.isNone then printed else last.any (· + 1 < r.place)) then
              say ((a.value? '\x05').getD "--" ++ "\n")
            let line := mark (if r.isHit then ":" else "-") r.place r.offset ++ r.text ++ "\n"
            say (if has 'z' then swapEnds line else line)
            last := some r.place
            printed := true
    let failure := failed && !(has 'q' && found)
    atLeast (if failure then 2 else if found then 0 else 1)

end AstCompare.Shell.Tool
