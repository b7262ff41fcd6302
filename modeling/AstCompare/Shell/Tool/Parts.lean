import AstCompare.Shell.Tool.Basic

/-!
# Counting, and parts of files

How much there is in a file, its beginning and its end, its lines in the reverse order, and its
pieces.

## Main definitions

* `wordCount`, `head`, `tail`, `reverseLines`, `reverseEach`, `splitFile`: the programs.
-/

namespace AstCompare.Shell.Tool

/-! ### Counting -/

/-- The number of words in bytes. -/
def countWords (b : ByteArray) : Nat :=
  (b.data.foldl (fun (n, inside) c =>
    let blank := c = 32 || (9 ≤ c && c ≤ 13)
    (if !blank && !inside then n + 1 else n, !blank)) (0, false)).1

/-- The number of line feeds in bytes. -/
def countLines (b : ByteArray) : Nat :=
  b.data.foldl (fun n c => if c = 10 then n + 1 else n) 0

/-- The length of the longest line. -/
def longestLine (b : ByteArray) : Nat :=
  let (best, present) := b.data.foldl (fun (best, n) c =>
    if c = 10 || c = 12 || c = 13 then (max best n, 0)
    else if c = 9 then (best, n + 8 - n % 8)
    else if 32 ≤ c && c < 127 then (best, n + 1) else (best, n)) (0, 0)
  max best present

/-- Counts lines, words and bytes. -/
def wordCount : Tool := fun args =>
  let names :=
    [("lines", 'l'), ("words", 'w'), ("bytes", 'c'), ("chars", 'm'), ("max-line-length", 'L'),
      ("total", '\x01')]
  withArguments "wc" "lwcmL" "\x01" 1 (spellOut names args) fun a => do
    let wanted := ['l', 'w', 'm', 'c', 'L'].filter a.has
    let wanted := if wanted.isEmpty then ['l', 'w', 'c'] else wanted
    let count (b : ByteArray) : List Nat := wanted.map fun c => match c with
      | 'l' => countLines b
      | 'w' => countWords b
      | 'L' => longestLine b
      | _ => b.size
    let w ← get
    let v : View := ⟨w.disk, w.streams⟩
    let paths := if a.others.isEmpty then ["-"] else a.others
    let sizes := paths.filterMap fun p =>
      if p == "-" then
        if (v.streams.lookup 0).isNone then none
        else some (if w.seekable then some w.input.size else none)
      else match v.stat p with
        | .ok (_, .file _ c _) => some (some c.size)
        | .ok _ => some none
        | .error _ => none
    let regular := (sizes.map fun s => s.getD 0).foldl (· + ·) 0
    let totals := (a.value? '\x01').getD "auto"
    if !(["auto", "always", "only", "never"].contains totals) then
      return ← misuse "wc" ("invalid argument " ++ cited totals ++
        " for '--total'\nValid arguments are:\n" ++
        "  - 'auto'\n  - 'always'\n  - 'only'\n  - 'never'") 1
    let width := if (paths.length == 1 && wanted.length == 1) || totals == "only" then 1
      else max (toString regular).length (if sizes.contains none then 7 else 1)
    let line (counts : List Nat) (name : Option String) : String :=
      " ".intercalate (counts.map fun n => padLeft width (toString n)) ++
        (name.map (" " ++ ·)).getD "" ++ "\n"
    let mut total := wanted.map fun _ => 0
    for p in paths do
      let name := if a.others.isEmpty then none else some (if p.contains '\n' then shown p else p)
      if ← isDirectory p then
        complain ("wc: " ++ shown p ++ ": Is a directory") 1
        if totals != "only" then say (line (wanted.map fun _ => 0) name)
      else
        match ← source "wc" p 1 with
        | none => pure ()
        | some d =>
          let counts := count d
          total := (total.zip counts).zip wanted |>.map fun ((x, y), c) =>
            if c == 'L' then max x y else x + y
          if totals != "only" then say (line counts name)
    match totals with
    | "only" => say (line total none)
    | "never" => pure ()
    | "always" => say (line total (some "total"))
    | _ => if 1 < paths.length then say (line total (some "total"))

/-! ### Beginnings and ends -/

/-- The place after the `n`-th line feed from `i` on, or the end. -/
def afterLines (b : ByteArray) (n i : Nat) : Nat :=
  if h : i < b.size then
    match n with
    | 0 => i
    | n + 1 => if b[i] = 10 then afterLines b n (i + 1) else afterLines b (n + 1) (i + 1)
  else b.size
termination_by b.size - i

/-- The number of lines, where one that does not end counts too. -/
def lineCount (b : ByteArray) : Nat :=
  countLines b + if b.size = 0 || b[b.size - 1]? = some 10 then 0 else 1

/-- A first argument that is a hyphen, digits and letters asks for so many lines or bytes: the
digits and the letters. -/
def countArgument? : List String → Option (String × List Char)
  | [] => none
  | s :: _ =>
    match s.toList with
    | '-' :: c :: cs =>
      if c.isDigit then
        let digits := (c :: cs).takeWhile Char.isDigit
        some (String.ofList digits, (c :: cs).drop digits.length)
      else none
    | _ => none

/-- A part of a source. -/
structure Part where
  data : Data
  /-- How much has been looked at. -/
  seen : Nat
  /-- Nothing that may still come would change it. -/
  isFinal : Bool := false
  /-- What has been looked at is read piece by piece, and not more. -/
  isExact : Bool := false

/-- Prints the part of each source that `part` gives, with a heading if there are several. -/
def printParts (name : String) (a : Arguments) (part : Data → Part) : Doing Unit := do
  let headed := (1 < a.others.length && !a.has 'q') || a.has 'v'
  let mut first := true
  for p in (if a.others.isEmpty then ["-"] else a.others) do
    let heading :=
      (if first then "" else "\n") ++ "==> " ++ (if p == "-" then "standard input" else p) ++
      " <==\n"
    if p == "-" then
      let w ← get
      let x := part w.input
      if headed then say heading
      hold x.data
      consume (if x.isExact then 1 else 8192) x.seen
      if !(w.complete || x.isFinal) then modify fun w => { w with starved := true }
      first := false
    else if ← isDirectory p then
      if headed then say heading
      complain (name ++ ": error reading " ++ quoted p ++ ": Is a directory") 1
      first := false
    else
      match ← readFile p with
      | .error e =>
        complain (name ++ ": cannot open " ++ quoted p ++ " for reading: " ++ e.reason) 1
      | .ok d =>
        if headed then say heading
        hold (part d).data
        first := false

/-- The arguments of `head` with a first one that only counts written as an option, or the letter in
it that is wrong. -/
def headArguments (args : List String) : Except Char (List String) :=
  match countArgument? args with
  | none => .ok args
  | some (n, []) | some (n, ['l']) => .ok (("-n" ++ n) :: args.tail)
  | some (n, ['q']) => .ok (("-n" ++ n) :: "-q" :: args.tail)
  | some (n, ['v']) => .ok (("-n" ++ n) :: "-v" :: args.tail)
  | some (n, ['c']) => .ok (("-c" ++ n) :: args.tail)
  | some (n, c :: _) =>
    if ['b', 'k', 'm'].contains c then .ok (("-c" ++ n ++ String.singleton c) :: args.tail)
    else .error c

/-- Prints the first bytes or lines of its input or of files. -/
def head : Tool := fun args =>
  match headArguments (spellOut [("lines", 'n'), ("bytes", 'c'), ("quiet", 'q')] args) with
  | .error c => misuse "head" ("invalid trailing option -- " ++ String.singleton c) 1
  | .ok args => withArguments "head" "qvz" "nc" 1 args fun a => do
    let bytes := a.value? 'c'
    let text := (bytes.or (a.value? 'n')).getD "10"
    let negative := text.startsWith "-"
    match amount? (if negative then (text.drop 1).toString else text) with
    | none =>
      complain ("head: invalid number of " ++ (if bytes.isSome then "bytes" else "lines") ++ ": " ++
        cited text) 1
    | some n =>
      printParts "head" a fun b =>
        let stop := match bytes.isSome, negative with
          | true, false => min n b.size
          | true, true => b.size - n
          | false, false => afterLines b n 0
          | false, true => afterLines b (lineCount b - n) 0
        { data := b.extract 0 stop
          seen := if negative then b.size else stop
          isFinal := !negative && n ≤ (if bytes.isSome then b.size else countLines b)
          isExact := bytes.isSome && !negative }

/-- The arguments of `tail` with a first one that only counts written as an option, or the digit
that is not understood because too much follows. -/
def tailArguments (args : List String) : Except String (List String) :=
  match countArgument? args, args with
  | some (n, cs), _ =>
    if 2 < args.length then .error (n.take 1).toString
    else .ok (((if cs.contains 'c' then "-c" else "-n") ++ n) :: args.tail)
  | none, s :: rest =>
    if s.startsWith "+" && 1 < s.length && (s.drop 1).toString.toList.all Char.isDigit then
      .ok (("-n" ++ s) :: rest)
    else .ok args
  | none, [] => .ok []

/-- Prints the last bytes or lines of its input or of files. -/
def tail : Tool := fun args =>
  match tailArguments (spellOut [("lines", 'n'), ("bytes", 'c'), ("quiet", 'q')] args) with
  | .error digit => complain ("tail: option used in invalid context -- " ++ digit) 1
  | .ok args => withArguments "tail" "qvzfF" "ncs" 1 args fun a => do
    let bytes := a.value? 'c'
    let text := (bytes.or (a.value? 'n')).getD "10"
    let fromStart := text.startsWith "+"
    let signed := fromStart || text.startsWith "-"
    match amount? (if signed then (text.drop 1).toString else text) with
    | none =>
      complain ("tail: invalid number of " ++ (if bytes.isSome then "bytes" else "lines") ++ ": " ++
        cited text) 1
    | some n =>
      printParts "tail" a fun b =>
        let start := match bytes.isSome, fromStart with
          | true, false => b.size - n
          | true, true => n - 1
          | false, false => afterLines b (lineCount b - n) 0
          | false, true => afterLines b (n - 1) 0
        { data := b.extract start b.size, seen := b.size }

/-! ### Other arrangements -/

/-- The parts of a text between separators, each with the separator that ends it, or with the one
before it. -/
def separatedParts (separator : String) (attached : Bool) (s : String) : List String :=
  match s.splitOn separator with
  | [] => []
  | first :: rest =>
    if attached then
      (if first.isEmpty then [] else [first]) ++ rest.map (separator ++ ·)
    else
      let parts := first :: rest
      parts.dropLast.map (· ++ separator) ++ (match parts.getLastD "" with
        | "" => []
        | last => [last])

/-- Prints lines in the reverse order. -/
def reverseLines : Tool := fun args =>
  withArguments "tac" "br" "s" 1
    (spellOut [("separator", 's'), ("before", 'b'), ("regex", 'r')] args) fun a => do
    let separator := match (a.value? 's').getD "\n" with
      | "" => "\x00"
      | s => s
    for p in (if a.others.isEmpty then ["-"] else a.others) do
      match ← (if p == "-" then do return Except.ok (← takeInput) else readFile p) with
      | .error e =>
        complain ("tac: failed to open " ++ quoted p ++ " for reading: " ++ e.reason) 1
      | .ok d =>
        -- A last line without an end joins the one before it.
        say (String.join (separatedParts separator (a.has 'b') d.text).reverse)

/-- Prints each line backwards. -/
def reverseEach : Tool := fun args => do
  for p in if args.isEmpty then ["-"] else args do
    match ← sourceOr ("rev: cannot open " ++ p) p 1 with
    | none => pure ()
    | some d =>
      let text := d.text
      let out := "\n".intercalate ((linesOf text).map fun l => String.ofList l.toList.reverse)
      say (if text.endsWith "\n" then out ++ "\n" else out)

/-- The number as letters or digits, for the names of pieces. -/
def pieceName (digits : Bool) (width n : Nat) : String :=
  let base := if digits then 10 else 26
  let first := if digits then 48 else 97
  String.ofList ((List.range width).reverse.map fun i =>
    Char.ofNat (first + n / Nat.pow base i % base))

/-- The pieces of a text with so many lines each. `fuel` bounds their number. -/
def linePieces (size fuel : Nat) (b : ByteArray) : List ByteArray :=
  match fuel with
  | 0 => []
  | fuel + 1 =>
    if b.size == 0 then []
    else
      let n := afterLines b size 0
      b.extract 0 n :: linePieces size fuel (b.extract n b.size)

/-- The pieces of so many bytes each. `fuel` bounds their number. -/
def bytePieces (size fuel : Nat) (b : ByteArray) : List ByteArray :=
  match fuel with
  | 0 => []
  | fuel + 1 =>
    if b.size == 0 then [] else b.extract 0 size :: bytePieces size fuel (b.extract size b.size)

/-- Writes the pieces of its input into files. -/
def splitFile : Tool := fun args =>
  let names := [("lines", 'l'), ("bytes", 'b'), ("numeric-suffixes", 'd'), ("suffix-length", 'a')]
  withArguments "split" "d" "lba" 1 (spellOut names args) fun a => do
    let wrong (what : String) (c : Char) : Doing Unit :=
      complain ("split: invalid number of " ++ what ++ ": " ++ cited ((a.value? c).getD "")) 1
    let lines := ((a.value? 'l').map amount?).getD (some 1000)
    let bytes := (a.value? 'b').map amount?
    match lines.filter (0 < ·), bytes.map fun n => n.filter (0 < ·) with
    | none, _ => wrong "lines" 'l'
    | _, some none => wrong "bytes" 'b'
    | some lines, bytes =>
      let p := a.others.headD "-"
      match ← (if p == "-" then do return Except.ok (← takeInput) else readFile p) with
      | .error e => complain ("split: cannot open " ++ quoted p ++ " for reading: " ++ e.reason) 1
      | .ok d =>
        let pieces := match bytes with
          | some (some n) => bytePieces n d.size d
          | _ => linePieces lines d.size d
        let width := ((a.value? 'a').bind number?).getD 2
        for (piece, i) in pieces.zipIdx do
          discard <| writeFile ((a.others[1]?).getD "x" ++ pieceName (a.has 'd') width i) piece

end AstCompare.Shell.Tool
