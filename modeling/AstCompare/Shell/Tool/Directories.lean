import AstCompare.Shell.Pattern
import AstCompare.Shell.Tool.Listing
import AstCompare.Shell.Tool.Sort

/-!
# Listing directories

The names in directories, in an order, with signs and quotes around them as asked for: each on a
line of its own, beside each other in columns, behind each other with commas, or with all that is
known about the entry.

## Main definitions

* `ListOrder`, `ListLayout`, `NameQuoting`, `NameMark`: the choices.
* `ListStyle`: what a listing looks like.
* `columnWidths`, `inColumns`, `withCommas`: names beside and behind each other.
* `listFiles`: the program.
-/

namespace AstCompare.Shell.Tool

/-- The order of a listing. -/
inductive ListOrder where
  | name
  | none
  | time
  | size
  | extension
  | version
  | width
  deriving DecidableEq, Repr

/-- How the names are arranged. -/
inductive ListLayout where
  | lines
  | columns
  | across
  | commas
  | long
  deriving DecidableEq, Repr

/-- How names are quoted. -/
inductive NameQuoting where
  | literal
  | shell
  | shellAlways
  | shellEscape
  | shellEscapeAlways
  | c
  | cMaybe
  | escape
  | locale
  | clocale
  deriving DecidableEq, Repr

/-- Which entries have a sign behind their names. -/
inductive NameMark where
  | none
  | directories
  | kinds
  | all
  deriving DecidableEq, Repr

/-- How times are written. -/
inductive TimeStyle where
  | usual
  /-- By the format for times of the last half year, and by the one for others. -/
  | formats (recent old : String)

/-- What a listing looks like. -/
structure ListStyle where
  order : ListOrder := .name
  reversed : Bool := false
  directoriesFirst : Bool := false
  layout : ListLayout := .lines
  quoting : NameQuoting := .literal
  /-- Characters that cannot be printed are question marks. -/
  masked : Bool := false
  mark : NameMark := .none
  times : TimeStyle := .usual
  /-- The width of a line; zero is without an end. -/
  width : Nat := 80
  tab : Nat := 8
  /-- Sizes have units, which are powers of this number. -/
  unit : Option Nat := .none
  showsNumber : Bool := false
  showsBlocks : Bool := false
  endsInZero : Bool := false

/-! ### Names -/

namespace NameQuoting

/-- The ways of quoting by name. -/
def names : List (String × NameQuoting) :=
  [("literal", literal), ("shell", shell), ("shell-always", shellAlways),
    ("shell-escape", shellEscape), ("shell-escape-always", shellEscapeAlways), ("c", c),
    ("c-maybe", cMaybe), ("escape", escape), ("locale", locale), ("clocale", clocale)]

/-- The characters of a name with those spelled out that cannot be printed. A backslash stands
before the given characters. -/
def spelledOut (marked : List Char) (s : String) : String :=
  String.ofList (s.toList.flatMap fun c =>
    if c == '\\' || marked.contains c then ['\\', c] else (spelling? c).getD [c])

/-- A name between quotes, as a shell reads it, where all characters stand for themselves. -/
def plainQuoted (s : String) : String :=
  let cs := s.toList
  if cs.contains '\'' && cs.all fun c => c == ' ' || c == '\'' || !shellSigns.contains c then
    "\"" ++ s ++ "\""
  else "'" ++ "'\\''".intercalate (s.splitOn "'") ++ "'"

/-- A name means something else to a shell. -/
def needsQuotes (s : String) : Bool :=
  quotedIfNeeded [] s != s

/-- A name in quotes. -/
def apply (q : NameQuoting) (s : String) : String :=
  match q with
  | literal => s
  | shell => if needsQuotes s then plainQuoted s else s
  | shellAlways => plainQuoted s
  | shellEscape => quotedIfNeeded [] s
  | shellEscapeAlways => quoted s
  | c | clocale => "\"" ++ spelledOut ['"'] s ++ "\""
  | cMaybe => if spelledOut ['"'] s == s then s else "\"" ++ spelledOut ['"'] s ++ "\""
  | escape => spelledOut [' '] s
  | locale => cited s

/-- Some names have quotes and others have not. -/
def isVariable : NameQuoting → Bool
  | shell | shellEscape | cMaybe => true
  | _ => false

end NameQuoting

/-- The sign behind a name. -/
def NameMark.sign (m : NameMark) (e : Entry) : String :=
  match m, e with
  | .none, _ => ""
  | _, .directory _ => "/"
  | .directories, _ => ""
  | .all, .file _ _ b => if b.mode &&& 0o111 != 0 then "*" else ""
  | _, .link _ => "@"
  | _, .pipe _ _ => "|"
  | _, _ => ""

/-- A size with a unit, rounded up: with one decimal if it is below ten. `fuel` bounds the number of
units. -/
def scaledFrom (base n : Nat) (units : List Char) : String :=
  if n < base then toString n else go base units
where
  /-- Looks for the unit in which the number is small. -/
  go (size : Nat) : List Char → String
    | [] => toString n
    | u :: rest =>
      let tenths := (10 * n + size - 1) / size
      let whole := (n + size - 1) / size
      if tenths < 100 then
        toString (tenths / 10) ++ "." ++ toString (tenths % 10) ++ String.singleton u
      else if whole < base || rest.isEmpty then toString whole ++ String.singleton u
      else go (size * base) rest

/-- A size as the style writes it. -/
def ListStyle.amount (s : ListStyle) (n : Nat) : String :=
  match s.unit with
  | .none => toString n
  | some 1000 => scaledFrom 1000 n ['k', 'M', 'G', 'T', 'P', 'E']
  | some base => scaledFrom base n ['K', 'M', 'G', 'T', 'P', 'E']

/-- A number of blocks as the style writes it. -/
def ListStyle.blocks (s : ListStyle) (n : Nat) : String :=
  if s.unit.isSome then s.amount (1024 * n) else toString n

/-! ### Entries -/

/-- What a listing tells about an entry. -/
structure Listed where
  text : String
  location : Location := []
  entry : Entry := .directory {}
  /-- Nothing could be found out. -/
  unknown : Bool := false

/-- The last part of a name behind a dot, with the dot. -/
def extensionOf (s : String) : String :=
  match s.splitOn "." with
  | [] | [_] => ""
  | parts => "." ++ parts.getLastD ""

/-- The entries in an order. Those that agree stand in the order of their names. -/
def ListStyle.sorted (s : ListStyle) (d : Disk) (xs : List Listed) : List Listed :=
  let by' (le : Listed → Listed → Bool) (xs : List Listed) : List Listed := xs.mergeSort le
  let named := by' (fun x y => decide (x.text ≤ y.text)) xs
  let ordered := match s.order with
    | .none => xs
    | .name => named
    | .time =>
      by' (fun x y => decide (y.entry.attributes.modified ≤ x.entry.attributes.modified)) named
    | .size => by' (fun x y => decide (entrySize d y.entry ≤ entrySize d x.entry)) named
    | .extension => by' (fun x y => decide (extensionOf x.text ≤ extensionOf y.text)) named
    | .version =>
      by' (fun x y =>
        compareVersions (x.text.length + y.text.length + 1) x.text.toList y.text.toList != .gt)
        named
    | .width => by' (fun x y => decide (x.text.length ≤ y.text.length)) named
  let ordered := if s.reversed then ordered.reverse else ordered
  if s.directoriesFirst then
    let isDirectory (x : Listed) : Bool := match x.entry with
      | .directory _ => true
      | .link _ => match d.stat (unoctets (pathOf x.location)) with
        | .ok (_, .directory _) => true
        | _ => false
      | _ => false
    ordered.filter isDirectory ++ ordered.filter fun x => !isDirectory x
  else ordered

/-- The names as they are shown, without the signs behind them. Where only some have quotes and the
names stand below each other, the others have a blank in front. -/
def ListStyle.shownNames (s : ListStyle) (xs : List Listed) : List String :=
  let names := xs.map fun x =>
    let quoted := s.quoting.apply x.text
    if s.masked && s.quoting != .c && s.quoting != .escape then
      quoted.map fun c => if (spelling? c).isSome then '?' else c
    else quoted
  let aligned :=
    s.quoting.isVariable && (s.layout == .long || (s.layout != .lines && s.layout != .commas))
  if aligned && xs.any fun x => s.quoting.apply x.text != x.text then
    (names.zip xs).map fun (n, x) => if s.quoting.apply x.text == x.text then " " ++ n else n
  else names

/-- When an entry was changed. -/
def ListStyle.moment (s : ListStyle) (d : Disk) (e : Entry) : String :=
  match s.times with
  | .usual => listedMoment d e
  | .formats recent old =>
    let t := momentOf e.attributes.modified
    let now := momentOf d.now
    momentText t (if now - 15778476 < t && t ≤ now then recent else old).toList

/-! ### Arrangements -/

/-- The blanks from one column to another, with tabs where they fit. `fuel` bounds their number. -/
def blanksTo (tab : Nat) (fuel start stop : Nat) : List Char :=
  match fuel with
  | 0 => []
  | fuel + 1 =>
    if stop ≤ start then []
    else if tab != 0 && (start + 1) / tab < stop / tab then
      '\t' :: blanksTo tab fuel (start + tab - start % tab) stop
    else ' ' :: blanksTo tab fuel (start + 1) stop

/-- The widths of so many columns with the names, and how many rows there are. -/
def columnWidths (across : Bool) (columns : Nat) (sizes : Array Nat) : List Nat :=
  let rows := (sizes.size + columns - 1) / columns
  (List.range columns).map fun c =>
    ((List.range rows).map fun r =>
      let i := if across then r * columns + c else c * rows + r
      match sizes[i]? with
      | some n => if c + 1 == columns then n else n + 2
      | none => 0).foldl max 3

/-- The greatest number of columns that fit into the width, of at most so many. -/
def fittingColumns (across : Bool) (width : Nat) (sizes : Array Nat) : Nat → Nat
  | 0 => 1
  | n + 1 =>
    if n = 0 || (columnWidths across (n + 1) sizes).foldl (· + ·) 0 < width then n + 1
    else fittingColumns across width sizes n

/-- The names in columns, below each other or beside each other. -/
def inColumns (across : Bool) (width tab : Nat) (names : List String) : List String :=
  let names := names.toArray
  let sizes := names.map String.length
  let columns := fittingColumns across width sizes (min names.size (max 1 (width / 3)))
  let widths := columnWidths across columns sizes
  let rows := (names.size + columns - 1) / columns
  (List.range rows).map fun r =>
    let places :=
      ((List.range columns).map fun c =>
        (c, if across then r * columns + c else c * rows + r)).filter
      fun (_, i) => i < names.size
    let (text, _, _) := places.foldl (fun (text, position, column) (c, i) =>
      let name := names.getD i ""
      let text := text ++ String.ofList (blanksTo tab (column - position) position column) ++ name
      (text, column + name.length, column + widths.getD c 0)) ("", 0, 0)
    text

/-- The names with commas between them, in lines of a width. -/
def withCommas (width : Nat) (names : List String) : String :=
  (names.foldl (fun (text, position, isFirst) name =>
    if isFirst then (name, name.length, false)
    else if width == 0 || position + name.length + 2 < width then
      (text ++ ", " ++ name, position + 2 + name.length, false)
    else (text ++ ",\n" ++ name, name.length, false)) ("", 0, true)).1

/-- The lines of a long listing. -/
def longLines (s : ListStyle) (d : Disk) (a : Arguments) (entries : List Listed) : List String :=
  let width (f : Listed → String) : Nat :=
    (entries.map fun x => if x.unknown then 1 else (f x).length).foldl max 0
  let size (x : Listed) : String := s.amount (entrySize d x.entry)
  let names (x : Listed) : String := toString (entryNames d x.location x.entry)
  let owner (x : Listed) : String :=
    let own := x.entry.attributes.own
    let name (word : String) : String :=
      if a.has 'n' then (if own then "65534 " else "0 ") else if own then word else "root "
    (if a.has 'g' then "" else name "nobody ") ++
      (if a.has 'o' || a.has 'G' then "" else name "nogroup ")
  (entries.zip (s.shownNames entries)).map fun (x, name) =>
    if x.unknown then
      kindLetter x.entry ++ "????????? ? ? ? " ++ padLeft (width size) "?" ++ "            ? " ++
        name
    else
      let leads := match x.entry with
        | .link t =>
          " -> " ++ s.quoting.apply (linkText d t) ++
            match d.stat (unoctets (pathOf x.location)) with
            | .ok (_, e) => s.mark.sign e
            | .error _ => ""
        | e => s.mark.sign e
      modeLetters x.entry ++ " " ++ padLeft (width names) (names x) ++ " " ++ owner x ++
        padLeft (width size) (size x) ++ " " ++ s.moment d x.entry ++ " " ++ name ++ leads

/-- The number of an entry. -/
def entryNumber (e : Entry) : Nat :=
  match e with
  | .file id _ _ => id
  | _ => 2

/-- A listing of entries. -/
def ListStyle.listing (s : ListStyle) (d : Disk) (a : Arguments) (entries : List Listed) : String :=
  let width (f : Listed → String) : Nat := (entries.map fun x => (f x).length).foldl max 0
  let number (x : Listed) : String := toString (entryNumber x.entry)
  let blocks (x : Listed) : String := s.blocks (entryBlocks d x.entry)
  let padded (f : Listed → String) (x : Listed) : String :=
    (if s.layout == .commas then f x else padLeft (width f) (f x)) ++ " "
  let before (x : Listed) : String :=
    (if s.showsNumber then padded number x else "") ++ if s.showsBlocks then padded blocks x else ""
  let names := if s.layout == .long then longLines s d a entries
    else (s.shownNames entries).zip entries |>.map fun (name, x) => name ++ s.mark.sign x.entry
  let names := (names.zip entries).map fun (name, x) => before x ++ name
  if names.isEmpty then ""
  else match s.layout with
    | .columns =>
      if s.width == 0 then "  ".intercalate names ++ "\n"
      else joinLines (inColumns false s.width s.tab names)
    | .across =>
      if s.width == 0 then "  ".intercalate names ++ "\n"
      else joinLines (inColumns true s.width s.tab names)
    | .commas => withCommas s.width names ++ "\n"
    | .lines | .long =>
      if s.endsInZero then String.join (names.map (· ++ "\x00")) else joinLines names

/-! ### Choices -/

/-- The words that begin so, or the one that is meant exactly. -/
def choice? {α : Type} (choices : List (String × α)) (word : String) : Option α :=
  match choices.lookup word, choices.filter fun c => c.1.startsWith word with
  | some x, _ => some x
  | .none, [(_, x)] => some x
  | .none, _ => .none

/-- A complaint about a word that is none of the choices, each of which may have several names. -/
def wrongChoice (word option : String) (choices : List (List String)) : String :=
  "invalid argument " ++ cited word ++ " for " ++ cited option ++ "\nValid arguments are:" ++
    String.join (choices.map fun names => "\n  - " ++ ", ".intercalate (names.map cited))

/-- The orders by name. -/
def ListOrder.names : List (String × ListOrder) :=
  [("none", none), ("time", time), ("size", size), ("extension", extension), ("version", version),
    ("width", width), ("name", name)]

/-- The arrangements by name. -/
def ListLayout.names : List (String × ListLayout) :=
  [("verbose", long), ("long", long), ("commas", commas), ("horizontal", across),
    ("across", across), ("vertical", columns), ("single-column", lines)]

/-- The marks by name. -/
def NameMark.names : List (String × NameMark) :=
  [("none", none), ("slash", directories), ("file-type", kinds), ("classify", all)]

/-- A way to write times by name. -/
def TimeStyle.ofName? (s : String) : Option TimeStyle :=
  match s.toList with
  | '+' :: cs =>
    match (String.ofList cs).splitOn "\n" with
    | [old, recent] => some (.formats recent old)
    | _ => some (.formats (String.ofList cs) (String.ofList cs))
  | _ =>
    if s.startsWith "posix-" then some .usual
    else choice? [("full-iso", .formats "%Y-%m-%d %H:%M:%S.%N %z" "%Y-%m-%d %H:%M:%S.%N %z"),
      ("long-iso", .formats "%Y-%m-%d %H:%M" "%Y-%m-%d %H:%M"),
      ("iso", .formats "%m-%d %H:%M" "%Y-%m-%d "), ("locale", .usual)] s

/-- The style that letters ask for. The last of those that exclude each other counts. -/
def ListStyle.withLetter (s : ListStyle) (c : Char) : ListStyle :=
  match c with
  | 'l' | 'g' | 'n' | 'o' => { s with layout := .long }
  | 'C' => { s with layout := .columns }
  | 'x' => { s with layout := .across }
  | 'm' => { s with layout := .commas }
  | '1' => { s with layout := if s.layout == .long then .long else .lines }
  | 'f' => { s with order := .none, layout := if s.layout == .long then .lines else s.layout }
  | 'U' => { s with order := .none }
  | 't' => { s with order := .time }
  | 'S' => { s with order := .size }
  | 'X' => { s with order := .extension }
  | 'v' => { s with order := .version }
  | 'r' => { s with reversed := true }
  | 'F' => { s with mark := .all }
  | 'p' => { s with mark := .directories }
  | 'Q' => { s with quoting := .c }
  | 'b' => { s with quoting := .escape }
  | 'N' => { s with quoting := .literal }
  | 'q' => { s with masked := true }
  | 'h' => { s with unit := some 1024 }
  | 'i' => { s with showsNumber := true }
  | 's' => { s with showsBlocks := true }
  | '\x05' => { s with unit := some 1000 }
  | '\x06' =>
    { s with
      layout := .long
      times := .formats "%Y-%m-%d %H:%M:%S.%N %z" "%Y-%m-%d %H:%M:%S.%N %z" }
  | '\x07' => { s with mark := .kinds }
  | '\x08' => { s with directoriesFirst := true }
  | '\x0e' => { s with endsInZero := true }
  | _ => s

/-- The style with the value of an option. -/
def ListStyle.withValue (s : ListStyle) (option : Char) (v : String) : Except String ListStyle :=
  match option with
  | 'w' | '\x0f' =>
    match number? v with
    | some n => .ok { s with width := n }
    | .none => if option == 'w' then .error ("invalid line width: " ++ quoted v) else .ok s
  | 'T' =>
    match number? v with
    | some n => .ok { s with tab := n }
    | .none => .error ("invalid tab size: " ++ quoted v)
  | '\x10' =>
    match choice? ListOrder.names v with
    | some order => .ok { s with order }
    | .none => .error (wrongChoice v "--sort" (ListOrder.names.dropLast.map fun c => [c.1]))
  | '\x11' =>
    match choice? ListLayout.names v with
    | some layout => .ok { s with layout }
    | .none => .error (wrongChoice v "--format"
        [["verbose", "long"], ["commas"], ["horizontal", "across"], ["vertical"],
          ["single-column"]])
  | '\x12' =>
    match choice? NameMark.names v with
    | some mark => .ok { s with mark }
    | .none => .error (wrongChoice v "--indicator-style" (NameMark.names.map fun c => [c.1]))
  | '\x13' =>
    match choice? NameQuoting.names v with
    | some quoting => .ok { s with quoting }
    | .none => .error (wrongChoice v "--quoting-style" (NameQuoting.names.map fun c => [c.1]))
  | '\x14' =>
    match TimeStyle.ofName? v with
    | some times => .ok { s with times }
    | .none =>
      .error ("invalid argument " ++ cited v ++ " for 'time style'\nValid arguments are:\n" ++
        "  - [posix-]full-iso\n  - [posix-]long-iso\n  - [posix-]iso\n  - [posix-]locale\n" ++
        "  - +FORMAT (e.g., +%H:%M) for a 'date'-style format")
  | '\x15' =>
    let choices :=
      [["atime", "access", "use"], ["ctime", "status"], ["mtime", "modification"],
        ["birth", "creation"]]
    if choices.any fun c => c.contains v then .ok s else .error (wrongChoice v "--time" choices)
  | _ => .ok s

/-! ### The program -/

/-- Which names in directories are listed. -/
structure Visibility where
  /-- Also those that begin with a dot, and the directory and the one above it. -/
  dots : Bool := false
  ownDots : Bool := false
  /-- Patterns of names that are left out. -/
  ignored : List String := []
  /-- Patterns of names that are left out unless names with dots are listed. -/
  hidden : List String := []

/-- A name is listed. -/
def Visibility.shows (v : Visibility) (name : String) : Bool :=
  let fits (patterns : List String) : Bool :=
    patterns.any fun p => Pattern.fits (Pattern.parse (p.toList.map (·, false))) name.toList
  (v.dots || !(name.startsWith "." || fits v.hidden)) && !fits v.ignored

/-- The directories below one, each before those in it, in the order of the listing. `fuel` bounds
the depth. -/
def ListStyle.descend (s : ListStyle) (d : Disk) (v : Visibility) (fuel : Nat) (x : Listed) :
    List Listed :=
  match fuel with
  | 0 => [x]
  | fuel + 1 =>
    let inner := ((namesIn d x.location).filter v.shows).filterMap fun name =>
      let l := x.location ++ [unoctets name]
      match d.get? l with
      | some (.directory b) => some { text := name, location := l, entry := .directory b : Listed }
      | _ => .none
    let inner := if x.entry.attributes.allows .read then s.sorted d inner else []
    x :: inner.flatMap fun y => s.descend d v fuel { y with text := within x.text y.text }

/-- Lists directories, and tells the paths of files. -/
def listFiles (start : ListStyle) : Tool := fun args =>
  let names := [("all", 'a'), ("almost-all", 'A'), ("directory", 'd'), ("recursive", 'R'),
    ("reverse", 'r'), ("classify", 'F'), ("quote-name", 'Q'), ("dereference", 'L'),
    ("human-readable", 'h'), ("size", 's'), ("inode", 'i'), ("no-group", 'G'),
    ("numeric-uid-gid", 'n'), ("escape", 'b'), ("literal", 'N'), ("hide-control-chars", 'q'),
    ("show-control-chars", '\x04'), ("width", 'w'), ("tabsize", 'T'), ("ignore", 'I'),
    ("ignore-backups", 'B'), ("dereference-command-line", 'H'), ("author", '\x04'),
    ("kibibytes", 'k'), ("si", '\x05'), ("full-time", '\x06'), ("file-type", '\x07'),
    ("group-directories-first", '\x08'), ("zero", '\x0e'), ("sort", '\x10'), ("format", '\x11'),
    ("indicator-style", '\x12'), ("quoting-style", '\x13'), ("time-style", '\x14'),
    ("time", '\x15'), ("hide", '\x16'), ("block-size", '\x17')]
  let args := args.filter fun s => !s.startsWith "--color"
  let args := args.map fun s => if s.startsWith "--classify=" then "-F" else s
  withArguments "ls" "1aAbBcCdfFgGhHiklLmnNopqQrRsStuUvxXZ\x04\x05\x06\x07\x08\x0e"
      "IwT\x10\x11\x12\x13\x14\x15\x16\x17" 2 (spellOut names args) fun a => do
    let w ← get
    let d := w.disk
    let fromVariables := (w.environment.lookup "COLUMNS").map ('\x0f', ·)
    let s := a.flags.foldl ListStyle.withLetter start
    match (fromVariables.toList ++ a.values).foldlM (fun s (c, v) => s.withValue c v) s with
    | .error problem =>
      if problem.contains '\n' then misuse "ls" problem 2 else complain ("ls: " ++ problem) 2
    | .ok s => go a d s
where
  /-- Lists what the arguments name. -/
  go (a : Arguments) (d : Disk) (s : ListStyle) : Doing Unit := do
    let isLong := s.layout == .long
    let valuesOf (c : Char) : List String := (a.values.filter (·.1 == c)).map Prod.snd
    let v : Visibility :=
      { dots := a.has 'a' || a.has 'A' || a.has 'f'
        ownDots := a.has 'f' || (a.flags.filter fun c => c == 'a' || c == 'A').getLast? == some 'a'
        ignored := valuesOf 'I' ++ if a.has 'B' then ["*~"] else []
        hidden := valuesOf '\x16' }
    let seen (l : Location) (e : Entry) : Entry :=
      if a.has 'L' && e.isLink then ((d.stat (unoctets (pathOf l))).toOption.map Prod.snd).getD e
      else e
    let list (l : Location) (isOpen : Bool) : String :=
      let entries := ((namesIn d l).filter v.shows).filterMap fun name =>
        let inner := l ++ [unoctets name]
        (d.get? inner).map fun e =>
          { text := name, location := inner, entry := seen inner e, unknown := !isOpen : Listed }
      let dots := if v.ownDots then
          [".", ".."].map fun name =>
            let inner := if name == "." then l else l.dropLast
            {
              text := name, location := inner
              entry := (d.get? inner).getD (.directory {}) : Listed }
        else []
      let entries := s.sorted d (dots ++ entries)
      let blocks :=
        (entries.map fun x => if x.unknown then 0 else entryBlocks d x.entry).foldl (· + ·) 0
      (if isLong || s.showsBlocks then "total " ++ s.blocks blocks ++ "\n" else "") ++
        s.listing d a entries
    let paths := if a.others.isEmpty then ["."] else a.others
    let mut files : List Listed := []
    let mut dirs : List Listed := []
    for p in paths do
      -- A link that is named leads on only where the entry itself is not asked for.
      let keepsLink := (isLong || s.mark == .all || a.has 'd') && !a.has 'L' && !a.has 'H'
      let named ← lstat p
      let found ← if keepsLink then pure named else do
        match ← stat p, named with
        | .error .notFound, .ok (l, .link t) | .error .tooManyLinks, .ok (l, .link t) =>
          if a.has 'L' then stat p else pure (.ok (l, .link t))
        | found, _ => pure found
      match found with
      | .error e => complain ("ls: cannot access " ++ quoted p ++ ": " ++ e.reason) 2
      | .ok (l, .directory b) =>
        let x : Listed := { text := p, location := l, entry := .directory b }
        if a.has 'd' then files := files ++ [x] else dirs := dirs ++ [x]
      | .ok (l, e) => files := files ++ [{ text := p, location := l, entry := e }]
    say (s.listing d a (s.sorted d files))
    let listed := if a.has 'R' then
        (s.sorted d dirs).flatMap fun x =>
          (s.descend d v d.entries.length x).map fun y => (y, y.text == x.text)
      else (s.sorted d dirs).map (·, true)
    let headed := a.has 'R' || 1 < paths.length
    let mut isFirst := files.isEmpty
    for (x, isGiven) in listed do
      let b := x.entry.attributes
      if !b.allows .read then
        complain ("ls: cannot open directory " ++ quoted x.text ++ ": Permission denied")
          (if isGiven then 2 else 1)
      else
        let isOpen := b.allows .run
        if !isOpen && (isLong || s.mark == .all) then
          for name in namesIn d x.location do
            complain
              ("ls: cannot access " ++ quoted (within x.text name) ++ ": Permission denied") 1
        let heading := s.quoting.apply x.text
        say ((if isFirst then "" else "\n") ++ (if headed then heading ++ ":\n" else "") ++
          list x.location isOpen)
        isFirst := false

end AstCompare.Shell.Tool
