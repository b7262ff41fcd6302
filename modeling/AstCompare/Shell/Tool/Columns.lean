import AstCompare.Shell.Regex
import AstCompare.Shell.Tool.Basic

/-!
# Parts of lines

Cutting lines and joining them, numbers before lines, and tabs and blanks in them.

## Main definitions

* `cutLines`, `pasteLines`, `numberedLines`, `foldLines`, `expandLines`, `unexpandLines`: the
  programs.
-/

namespace AstCompare.Shell.Tool

/-! ### Cutting and joining -/

/-- The numbers that a list of ranges names, as a test. The error is what is wrong with the list. -/
def readRanges (what : String) (s : String) : Except String (Nat → Bool) := do
  let value (t : String) : Except String (Option Nat) :=
    if t.isEmpty then .ok none
    else
      match number? t with
      | some 0 => .error (what ++ "s are numbered from 1")
      | some n => .ok (some n)
      | none =>
        .error ("invalid " ++
          (if what == "field" then "field value " else "byte or character position ") ++ cited t)
  let tests ←
    (s.toList.splitBy (fun a b => a != ',' && b != ',' && a != ' ' && b != ' ')).filterMapM
    fun cs => do
      let t := String.ofList cs
      if t == "," || t == " " then return none
      match t.splitOn "-" with
      | [a] =>
        let n := (← value a).getD 0
        return some fun (i : Nat) => i == n
      | [a, b] =>
        let first ← value a
        let last ← value b
        if first.isNone && last.isNone then .error "invalid range with no endpoint: -"
        let first := first.getD 1
        match last with
        | some last =>
          if last < first then .error "invalid decreasing range"
          return some fun (i : Nat) => first ≤ i && i ≤ last
        | none => return some fun (i : Nat) => first ≤ i
      | _ =>
        .error ("invalid " ++
          (if what == "field" then "field range" else "byte or character range"))
  if tests.isEmpty then .error (what ++ "s are numbered from 1")
  return fun i => tests.any fun t => t i

/-- Prints parts of lines. -/
def cutLines : Tool := fun args =>
  let names := [("delimiter", 'd'), ("fields", 'f'), ("characters", 'c'), ("bytes", 'b'),
    ("only-delimited", 's'), ("complement", 'C'), ("output-delimiter", 'O')]
  withArguments "cut" "snCz" "dfcbO" 1 (spellOut names args) fun a => do
    let lists := a.values.filter fun v => ['f', 'c', 'b'].contains v.1
    let delimiter := (a.value? 'd').getD "\t"
    match lists with
    | [] => misuse "cut" "you must specify a list of bytes, characters, or fields" 1
    | _ :: _ :: _ => misuse "cut" "only one list may be specified" 1
    | [(kind, text)] =>
      if 1 < delimiter.length then misuse "cut" "the delimiter must be a single character" 1
      else if kind != 'f' && (a.value? 'd').isSome then
        misuse "cut" "an input delimiter may be specified only when operating on fields" 1
      else if kind != 'f' && a.has 's' then
        misuse "cut"
          "suppressing non-delimited lines makes sense\n\tonly when operating on fields" 1
      else
        match readRanges (if kind == 'f' then "field" else "byte/character position") text with
        | .error e => misuse "cut" e 1
        | .ok test =>
          let test (i : Nat) : Bool := test i != a.has 'C'
          let d ← sources "cut" a.others 1
          let pick (ls : List String) : List String :=
            (ls.zipIdx.filter fun (_, i) => test (i + 1)).map Prod.fst
          let delimiter := if delimiter.isEmpty then "\x00" else delimiter
          let out := (linesOf d.text).filterMap fun l =>
            if kind == 'f' then
              let fields := l.splitOn delimiter
              if fields.length == 1 then (if a.has 's' then none else some l)
              else some (((a.value? 'O').getD delimiter).intercalate (pick fields))
            else some (((a.value? 'O').getD "").intercalate (pick (l.toList.map String.singleton)))
          sayLines out

/-- The lines of several sources side by side. `fuel` bounds their number. -/
def sideBySide (separators : List Char) (fuel : Nat) (columns : List (List String)) : List String :=
  match fuel with
  | 0 => []
  | fuel + 1 =>
    if columns.all List.isEmpty then []
    else
      let row := columns.zipIdx.map fun (c, i) =>
        (if i == 0 then ""
          else match separators[(i - 1) % max separators.length 1]? with
            | some s => String.singleton s
            | none => "") ++ c.headD ""
      String.join row :: sideBySide separators fuel (columns.map List.tail)

/-- Joins the lines of one source by separators in turn. -/
def joinInTurn (separators : List Char) (ls : List String) : String :=
  String.join (ls.zipIdx.map fun (l, i) =>
    (if i == 0 then ""
      else match separators[(i - 1) % max separators.length 1]? with
        | some s => String.singleton s
        | none => "") ++ l)

/-- Prints lines of several sources side by side, or those of each in one line. -/
def pasteLines : Tool := fun args =>
  withArguments "paste" "sz" "d" 1 (spellOut [("delimiters", 'd'), ("serial", 's')] args)
    fun a => do
    let rec unescape : List Char → List Char
      | '\\' :: 'n' :: cs => '\n' :: unescape cs
      | '\\' :: 't' :: cs => '\t' :: unescape cs
      | '\\' :: '0' :: cs => unescape cs
      | '\\' :: c :: cs => c :: unescape cs
      | c :: cs => c :: unescape cs
      | [] => []
    let separators := unescape ((a.value? 'd').getD "\t").toList
    let paths := if a.others.isEmpty then ["-"] else a.others
    let input ← if paths.contains "-" then do pure (linesOf (← takeInput).text) else pure []
    let shares := (paths.filter (· == "-")).length
    -- Where the input is named several times, its lines go round.
    let parts ← paths.zipIdx.mapM fun (p, i) => do
      if p == "-" then
        let k := ((paths.take i).filter (· == "-")).length
        return if a.has 's' then (if k == 0 then input else [])
          else (input.zipIdx.filter fun (_, j) => j % shares == k).map Prod.fst
      return linesOf ((← source "paste" p 1).getD .empty).text
    if (← get).status = 0 then
      if a.has 's' then sayLines (parts.map (joinInTurn separators))
      else sayLines (sideBySide separators ((parts.map List.length).foldl max 0) parts)

/-- Prints lines with their numbers. -/
def numberedLines : Tool := fun args =>
  withArguments "nl" "p" "bwsnvi" 1 args fun a => do
    let d ← sources "nl" a.others 1
    let width := ((a.value? 'w').bind number?).getD 6
    let separator := (a.value? 's').getD "\t"
    let step := ((a.value? 'i').bind number?).getD 1
    let style := (a.value? 'b').getD "t"
    let wanted (l : String) : Bool := match style.toList with
      | ['a'] => true
      | ['n'] => false
      | 'p' :: pattern => match Regex.parse {} pattern with
        | .ok r => (r.search false none l.toList).isSome
        | .error _ => false
      | _ => !l.isEmpty
    let show' (n : Nat) : String := match a.value? 'n' with
      | some "ln" => padRight width (toString n)
      | some "rz" => String.ofList (List.replicate (width - (toString n).length) '0') ++ toString n
      | _ => padLeft width (toString n)
    let rec go (n : Nat) : List String → List String
      | [] => []
      | l :: ls =>
        if !wanted l then
          (String.ofList (List.replicate (width + separator.length) ' ') ++ l) :: go n ls
        else (show' n ++ separator ++ l) :: go (n + step) ls
    sayLines (go (((a.value? 'v').bind number?).getD 1) (linesOf d.text))

/-- The column after a character. With `bytes` all characters are alike. -/
def columnAfter (bytes : Bool) (column : Nat) (c : Char) : Nat :=
  if bytes then column + 1
  else match c with
    | '\x08' => column - 1
    | '\r' => 0
    | '\t' => column + 8 - column % 8
    | _ => column + 1

/-- A line that is cut into pieces. -/
structure Folding where
  /-- The pieces that are complete, the latest first. -/
  pieces : List (List Char) := []
  /-- The present piece, the last character first. -/
  piece : List Char := []
  column : Nat := 0

/-- Starts a new piece with what is given, the last character first. -/
def Folding.cut (bytes : Bool) (f : Folding) (ended kept : List Char) : Folding where
  pieces := ended.reverse :: f.pieces
  piece := kept
  column := kept.reverse.foldl (columnAfter bytes) 0

/-- Takes one more character. A piece ends before it grows wider than the width, after a blank if
asked to. -/
def Folding.add (width : Nat) (atBlanks bytes : Bool) (f : Folding) (c : Char) : Folding :=
  let fits (f : Folding) : Bool := columnAfter bytes f.column c ≤ width
  let kept := f.piece.takeWhile fun c => c != ' ' && c != '\t'
  let f := if atBlanks && !fits f && kept.length < f.piece.length then
      f.cut bytes (f.piece.drop kept.length) kept
    else f
  let f := if fits f || f.piece.isEmpty then f else f.cut bytes f.piece []
  { f with piece := c :: f.piece, column := columnAfter bytes f.column c }

/-- The pieces of a line. -/
def foldLine (width : Nat) (atBlanks bytes : Bool) (l : String) : List String :=
  let f := l.toList.foldl (Folding.add width atBlanks bytes) {}
  ((f.piece.reverse :: f.pieces).reverse).map String.ofList

/-- Numbers as options, spelled out. -/
def numberOption (letter : String) (args : List String) : List String :=
  args.map fun s => match s.toList with
    | '-' :: c :: cs =>
      if (c :: cs).all Char.isDigit then "-" ++ letter ++ String.ofList (c :: cs) else s
    | _ => s

/-- Prints lines in pieces of a width. -/
def foldLines : Tool := fun args =>
  withArguments "fold" "bs" "w" 1
      (spellOut [("width", 'w'), ("spaces", 's'), ("bytes", 'b')] (numberOption "w" args))
        fun a => do
    let text := (← sources "fold" a.others 1).text
    match ((a.value? 'w').map number?).getD (some 80) with
    | none => complain ("fold: invalid number of columns: " ++ cited ((a.value? 'w').getD "")) 1
    | some 0 =>
      complain ("fold: invalid number of columns: " ++ cited ((a.value? 'w').getD "") ++
        ": Numerical result out of range") 1
    | some width =>
      let out := "\n".intercalate ((linesOf text).flatMap (foldLine width (a.has 's') (a.has 'b')))
      say (if text.endsWith "\n" then out ++ "\n" else out)

/-- A line with blanks in place of tabs, from a column on. With `front` only those before other
characters. -/
def expandTabs (stops : List Nat) (front : Bool) (column : Nat) : List Char → List Char
  | [] => []
  | '\t' :: cs =>
    let next := match stops with
      | [width] => (column / max width 1 + 1) * max width 1
      | stops => (stops.find? (column < ·)).getD (column + 1)
    List.replicate (next - column) ' ' ++ expandTabs stops front next cs
  | c :: cs =>
    if front && c != ' ' then c :: cs else c :: expandTabs stops front (column + 1) cs

/-- The places of tabs that an option names. -/
def tabStops (s : String) : Except String (List Nat) := do
  match ((s.splitOn ",").flatMap fun t => t.splitOn " ").mapM number? with
  | none => .error ("tab size contains invalid character(s): " ++ cited s)
  | some stops =>
    if stops.contains 0 then .error "tab size cannot be 0"
    else if (stops.zip stops.tail).any fun (m, n) => n ≤ m then .error "tab sizes must be ascending"
    else return stops

/-- Prints lines with blanks in place of tabs. -/
def expandLines : Tool := fun args =>
  withArguments "expand" "i" "t" 1
    (spellOut [("tabs", 't'), ("initial", 'i')] (numberOption "t" args)) fun a => do
    match tabStops ((a.value? 't').getD "8") with
    | .error problem => complain ("expand: " ++ problem) 1
    | .ok stops =>
      let text := (← sources "expand" a.others 1).text
      let out := "\n".intercalate ((linesOf text).map fun l =>
        String.ofList (expandTabs stops (a.has 'i') 0 l.toList))
      say (if text.endsWith "\n" then out ++ "\n" else out)

/-- A line with tabs in place of blanks up to a multiple of a width. `waiting` blanks stand before
the present column; without `all` only those before other characters are replaced. -/
def gatherTabs (width : Nat) (all : Bool) (column waiting : Nat) : List Char → List Char
  | [] => List.replicate waiting ' '
  | ' ' :: cs =>
    if (column + 1) % width == 0 then
      (if waiting == 0 && !cs.head?.any (· == ' ') && all then ' ' else '\t') ::
        gatherTabs width all (column + 1) 0 cs
    else gatherTabs width all (column + 1) (waiting + 1) cs
  | '\t' :: cs => '\t' :: gatherTabs width all ((column / width + 1) * width) 0 cs
  | c :: cs =>
    List.replicate waiting ' ' ++ c :: if all then gatherTabs width all (column + 1) 0 cs else cs

/-- Prints lines with tabs in place of blanks. -/
def unexpandLines : Tool := fun args =>
  withArguments "unexpand" "a" "t" 1 (spellOut [("tabs", 't'), ("all", 'a')] args) fun a => do
    match tabStops ((a.value? 't').getD "8") with
    | .error problem => return ← complain ("unexpand: " ++ problem) 1
    | .ok _ => pure ()
    let width := max (((a.value? 't').bind number?).getD 8) 1
    let text := (← sources "unexpand" a.others 1).text
    let all := a.has 'a' || (a.value? 't').isSome
    let out := "\n".intercalate ((linesOf text).map fun l =>
      String.ofList (gatherTabs width all 0 0 l.toList))
    say (if text.endsWith "\n" then out ++ "\n" else out)

end AstCompare.Shell.Tool
