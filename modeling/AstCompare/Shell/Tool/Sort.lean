import AstCompare.Shell.Tool.Basic

/-!
# Lines in order

Sorting lines by keys, leaving out repetitions, and comparing sorted lines.

## Main definitions

* `SortKey`, `compareLines`: the order of lines.
* `sortLines`, `uniqueLines`, `commonLines`: the programs.
-/

namespace AstCompare.Shell.Tool

/-! ### Sorting -/

/-- A number at the beginning of a text, as a fraction over a power of ten. -/
def leadingNumber (s : String) : Int × Nat :=
  let cs := s.toList.dropWhile fun c => c == ' ' || c == '\t'
  let (negative, cs) := match cs with
    | '-' :: rest => (true, rest)
    | cs => (false, cs)
  let whole := cs.takeWhile Char.isDigit
  let decimals := match cs.drop whole.length with
    | '.' :: rest => rest.takeWhile Char.isDigit
    | _ => []
  let n : Nat := (whole ++ decimals).foldl (fun n c => n * 10 + (c.toNat - 48)) 0
  (if negative then -(n : Int) else n, Nat.pow 10 decimals.length)

/-- The rank of a character in a version. -/
def versionRank (c : Char) : Int :=
  if c.isDigit then 0 else if c.isAlpha then c.toNat else if c == '~' then -1 else c.toNat + 256

/-- The order of two versions: numbers in them count by their value. `fuel` bounds the number of
steps. -/
def compareVersions (fuel : Nat) (a b : List Char) : Ordering :=
  match fuel with
  | 0 => .eq
  | fuel + 1 =>
    let wordA := a.takeWhile fun c => !c.isDigit
    let wordB := b.takeWhile fun c => !c.isDigit
    let size := max wordA.length wordB.length
    let ranks (w : List Char) : List Int := w.map versionRank ++ List.replicate (size - w.length) 0
    let o := compare (ranks wordA) (ranks wordB)
    let restA := a.drop wordA.length
    let restB := b.drop wordB.length
    let digitsA := restA.takeWhile Char.isDigit
    let digitsB := restB.takeWhile Char.isDigit
    let value (ds : List Char) : Nat := ds.foldl (fun n c => n * 10 + (c.toNat - 48)) 0
    let o := o.then (compare (value digitsA) (value digitsB))
    if o != .eq || (restA.isEmpty && restB.isEmpty) then o
    else compareVersions fuel (restA.drop digitsA.length) (restB.drop digitsB.length)

/-- The power of a thousand that the letter after a number stands for. -/
def unitRank (s : String) : Nat :=
  let cs := s.toList.dropWhile fun c => c == ' ' || c == '\t' || c == '-'
  match (cs.dropWhile fun c => c.isDigit || c == '.').head? with
  | some 'k' | some 'K' => 1
  | some 'M' => 2
  | some 'G' => 3
  | some 'T' => 4
  | some 'P' => 5
  | _ => 0

/-- The number of a month by its name, or zero. -/
def monthRank (s : String) : Nat :=
  let name := ((s.trimAscii.toString).take 3).toString.map Char.toUpper
  (["JAN", "FEB", "MAR", "APR", "MAY", "JUN", "JUL", "AUG", "SEP", "OCT", "NOV", "DEC"].findIdx?
    (· == name)).elim 0 (· + 1)

/-- The order of the numbers at the beginnings of two texts. -/
def compareNumbers (a b : String) : Ordering :=
  let (m, d) := leadingNumber a
  let (n, e) := leadingNumber b
  compare (m * e) (n * d)

/-- The number at the beginning of a text, as a fraction, where an exponent may follow. -/
def floatingNumber? (s : String) : Option (Int × Nat) :=
  let cs := s.toList.dropWhile fun c => c == ' ' || c == '\t'
  let (negative, cs) := match cs with
    | '-' :: rest => (true, rest)
    | '+' :: rest => (false, rest)
    | cs => (false, cs)
  let whole := cs.takeWhile Char.isDigit
  let (decimals, rest) := match cs.drop whole.length with
    | '.' :: rest => (rest.takeWhile Char.isDigit, rest.dropWhile Char.isDigit)
    | rest => ([], rest)
  if whole.isEmpty && decimals.isEmpty then none
  else
    let value (ds : List Char) : Nat := ds.foldl (fun n c => n * 10 + (c.toNat - 48)) 0
    -- Beyond some size an exponent makes no difference to the order of numbers as they are written.
    let size (ds : List Char) : Nat := min (value (ds.takeWhile Char.isDigit)) 400
    let (up, down) : Nat × Nat := match rest with
      | 'e' :: '-' :: ds | 'E' :: '-' :: ds => (0, size ds)
      | 'e' :: '+' :: ds | 'E' :: '+' :: ds | 'e' :: ds | 'E' :: ds => (size ds, 0)
      | _ => (0, 0)
    let n := value (whole ++ decimals) * Nat.pow 10 up
    some (if negative then -(n : Int) else n, Nat.pow 10 (decimals.length + down))

/-- The order of the numbers at the beginnings of two texts, where those without numbers come
first. -/
def compareFloating (a b : String) : Ordering :=
  match floatingNumber? a, floatingNumber? b with
  | none, none => .eq
  | none, some _ => .lt
  | some _, none => .gt
  | some (m, d), some (n, e) => compare (m * e) (n * d)

/-- The part of a line that counts for its order. -/
structure SortKey where
  field : Nat
  character : Nat := 1
  /-- The last field, and the last character in it unless that is the end of the field. -/
  last : Option (Nat × Nat) := none
  flags : List Char := []

/-- A place in a line, as arguments write it: a field, a character in it, and letters. -/
def readKeyPlace (cs : List Char) : Option (Nat × Nat × List Char) :=
  let field := cs.takeWhile Char.isDigit
  let rest := cs.drop field.length
  let (character, flags) := match rest with
    | '.' :: more => (more.takeWhile Char.isDigit, more.dropWhile Char.isDigit)
    | more => ([], more)
  (String.ofList field).toNat?.map fun n => (n, (String.ofList character).toNat?.getD 0, flags)

/-- A key as arguments write it. -/
def readKey (s : String) : Option SortKey := do
  let start := s.toList.takeWhile (· != ',')
  let (field, character, flags) ← readKeyPlace start
  match s.toList.drop start.length with
  | _ :: stop =>
    let (last, until_, more) ← readKeyPlace stop
    return ⟨field, max character 1, some (last, until_), flags ++ more⟩
  | [] => return ⟨field, max character 1, none, flags⟩

/-- The fields of a line, each with its place. Without a separator a field has the blanks before
it. -/
def fieldPlaces (separator : Option Char) (l : List Char) : List (Nat × Nat) :=
  match separator with
  | some c =>
    let (places, start, stop) := l.foldl (fun (acc, start, i) d =>
      if d == c then (acc ++ [(start, i)], i + 1, i + 1) else (acc, start, i + 1)) ([], 0, 0)
    places ++ [(start, stop)]
  | none =>
    let blank (c : Char) : Bool := c == ' ' || c == '\t'
    let (places, start, _, stop) := l.foldl (fun (acc, start, inside, i) d =>
      if blank d && inside then (acc ++ [(start, i)], i, false, i + 1)
      else (acc, start, inside || !blank d, i + 1)) ([], 0, false, 0)
    places ++ [(start, stop)]

/-- The part of a line that a key names. -/
def SortKey.part (separator : Option Char) (flags : List Char) (k : SortKey)
    (l : String) : String :=
  let cs := l.toList
  let places := fieldPlaces separator cs
  let size := cs.length
  let skip (i : Nat) : Nat :=
    if flags.contains 'b' then
      i + ((cs.drop i).takeWhile fun c => c == ' ' || c == '\t').length
    else i
  let start := match places[k.field - 1]? with
    | some (i, _) => min size (skip i + (k.character - 1))
    | none => size
  let stop := match k.last with
    | none => size
    | some (field, 0) => ((places[field - 1]?).map Prod.snd).getD size
    | some (field, character) =>
      match places[field - 1]? with
      | some (i, _) => min size (skip i + character)
      | none => size
  String.ofList ((cs.take stop).drop start)

/-- The order of two texts by flags. -/
def compareBy (flags : List Char) (a b : String) : Ordering :=
  let o :=
    if flags.contains 'h' then
      let sign (s : String) : Int := (leadingNumber s).1.sign
      let rank (s : String) : Int := sign s * unitRank s
      (compare (sign a) (sign b)).then ((compare (rank a) (rank b)).then (compareNumbers a b))
    else if flags.contains 'g' then compareFloating a b
    else if flags.contains 'n' then compareNumbers a b
    else if flags.contains 'M' then compare (monthRank a) (monthRank b)
    else if flags.contains 'V' then compareVersions (a.length + b.length + 1) a.toList b.toList
    else
      let trim (s : String) : String :=
        if flags.contains 'b' then
          String.ofList (s.toList.dropWhile fun c => c == ' ' || c == '\t')
        else s
      let keep (s : String) : String :=
        if flags.contains 'd' then
          String.ofList (s.toList.filter fun c => c.isAlphanum || c == ' ' || c == '\t')
        else s
      let fold (s : String) : String := if flags.contains 'f' then s.map Char.toUpper else s
      compare (fold (keep (trim a))) (fold (keep (trim b)))
  if flags.contains 'r' then o.swap else o

/-- The order of two lines. -/
def compareLines (separator : Option Char) (keys : List SortKey) (flags : List Char)
    (a b : String) : Ordering :=
  if keys.isEmpty then compareBy flags a b
  else
    keys.foldl (fun o k =>
      let fs := if k.flags.isEmpty then flags else k.flags
      o.then (compareBy fs (k.part separator fs a) (k.part separator fs b))) .eq

/-- The first line that stands out of order, by its number. -/
def disorder? (bad : String → String → Bool) (n : Nat) : List String → Option (Nat × String)
  | a :: b :: rest => if bad a b then some (n + 1, b) else disorder? bad (n + 1) (b :: rest)
  | _ => none

/-- Leaves out elements that are the same as the one before. -/
def withoutRepeats (same : String → String → Bool) : List String → List String
  | a :: b :: rest =>
    if same a b then withoutRepeats same (a :: rest) else a :: withoutRepeats same (b :: rest)
  | ls => ls

/-- Prints lines in order. -/
def sortLines : Tool := fun args =>
  let names := [("numeric-sort", 'n'), ("reverse", 'r'), ("unique", 'u'), ("key", 'k'),
    ("field-separator", 't'), ("ignore-case", 'f'), ("ignore-leading-blanks", 'b'), ("stable", 's'),
    ("output", 'o'), ("check", 'c')]
  withArguments "sort" "nrufbscCmgdhViMRz" "ktoST" 2 (spellOut names args) fun a => do
    let keys := (a.values.filter (·.1 == 'k')).map fun v => (v.2, readKey v.2)
    let separator := (a.value? 't').map fun s => if s == "\\0" then "\x00" else s
    match separator, keys.find? fun k => k.2.isNone with
    | some s, _ =>
      if s.length != 1 then
        complain
          (if s.isEmpty then "sort: empty tab" else "sort: multi-character tab " ++ cited s) 2
      else go a (some s) (keys.filterMap Prod.snd)
    | none, some (text, _) =>
      complain ("sort: invalid number at field start: invalid count at start of " ++ cited text) 2
    | none, none => go a none (keys.filterMap Prod.snd)
where
  /-- Sorts by the keys. -/
  go (a : Arguments) (separator : Option String) (keys : List SortKey) : Doing Unit := do
    let flags := a.flags
    let parts ← (if a.others.isEmpty then ["-"] else a.others).mapM fun p => do
      if p == "-" then return some (← takeInput)
      match ← readFile p with
      | .ok d => return some d
      | .error .isDirectory =>
        complain ("sort: read failed: " ++ shown p ++ ": Is a directory") 2
        return none
      | .error e =>
        complain ("sort: cannot read: " ++ shown p ++ ": " ++ e.reason) 2
        return none
    if (← get).status = 0 then
      let swapped (s : String) : String := if flags.contains 'z' then swapEnds s else s
      let groups := parts.map fun d => linesOf (swapped (d.getD .empty).text)
      let ls := groups.flatten
      let order := compareLines (separator.bind fun s => s.toList.head?) keys flags
      let whole (x y : String) : Ordering :=
        let o := order x y
        if flags.contains 's' || flags.contains 'u' then o
        else o.then (if flags.contains 'r' then compare y x else compare x y)
      if flags.contains 'c' || flags.contains 'C' then
        let bad (x y : String) : Bool :=
          whole x y == .gt || (flags.contains 'u' && order x y == .eq)
        match disorder? bad 1 ls with
        | some (n, l) =>
          if flags.contains 'C' then atLeast 1
          else
            complain ("sort: " ++ a.others.headD "-" ++ ":" ++ toString n ++ ": disorder: " ++ l) 1
        | none => pure ()
      else
        let sorted := if flags.contains 'm' then
            groups.foldl (fun xs ys => List.merge xs ys fun x y => whole x y != .gt) []
          else ls.mergeSort fun x y => whole x y != .gt
        let sorted := if flags.contains 'u' then withoutRepeats (fun x y => order x y == .eq) sorted
          else sorted
        match a.value? 'o' with
        | some p =>
          match ← writeFile p (.ofText (swapped (joinLines sorted))) with
          | none => pure ()
          | some e => complain ("sort: open failed: " ++ shown p ++ ": " ++ e.reason) 2
        | none => say (swapped (joinLines sorted))

/-- Lines with the number of times that each stands there in a row. -/
def countRepeats (same : String → String → Bool) : List String → List (Nat × String)
  | [] => []
  | l :: ls =>
    match countRepeats same ls with
    | (n, m) :: rest => if same l m then (n + 1, l) :: rest else (1, l) :: (n, m) :: rest
    | [] => [(1, l)]

/-- Prints lines that stand there several times in a row once. -/
def uniqueLines : Tool := fun args =>
  let names := [("count", 'c'), ("repeated", 'd'), ("unique", 'u'), ("ignore-case", 'i'),
    ("skip-fields", 'f'), ("skip-chars", 's'), ("check-chars", 'w')]
  withArguments "uniq" "cduiDz" "fsw" 1 (spellOut names args) fun a => do
    let given ← match a.others[2]? with
      | some extra => do
        misuse "uniq" ("extra operand " ++ cited extra) 1
        pure none
      | none => source "uniq" (a.others.headD "-") 1
    match given with
    | none => pure ()
    | some d =>
      let number (c : Char) : Option Nat := (a.value? c).bind number?
      let rec skipFields : Nat → List Char → List Char
        | 0, cs => cs
        | n + 1, cs => skipFields n ((cs.dropWhile isBlankChar).dropWhile fun c => !isBlankChar c)
      let key (l : String) : String :=
        let cs := (skipFields ((number 'f').getD 0) l.toList).drop ((number 's').getD 0)
        let cs := match number 'w' with
          | some n => cs.take n
          | none => cs
        String.ofList (if a.has 'i' then cs.map Char.toLower else cs)
      let counted := countRepeats (fun x y => key x == key y) (linesOf d.text)
      let kept := counted.filter fun (n, _) =>
        (!a.has 'd' || 1 < n) && (!a.has 'u' || n == 1)
      let repeated := (linesOf d.text).filter fun l =>
        counted.any fun (n, m) => 1 < n && key m == key l
      let out := joinLines (if a.has 'D' then repeated else kept.map fun (n, l) =>
        if a.has 'c' then padLeft 7 (toString n) ++ " " ++ l else l)
      match a.others with
      | _ :: p :: _ => discard <| writeFile p (.ofText out)
      | _ => say out
where
  /-- A blank between fields. -/
  isBlankChar (c : Char) : Bool := c == ' ' || c == '\t'

/-- The lines of two sorted sources, each with its column. `fuel` bounds their number. -/
def columnsOf (fuel : Nat) (a b : List String) : List (Nat × String) :=
  match fuel, a, b with
  | 0, _, _ | _, [], [] => []
  | fuel + 1, x :: xs, [] => (0, x) :: columnsOf fuel xs []
  | fuel + 1, [], y :: ys => (1, y) :: columnsOf fuel [] ys
  | fuel + 1, x :: xs, y :: ys =>
    if x == y then (2, x) :: columnsOf fuel xs ys
    else if x < y then (0, x) :: columnsOf fuel xs (y :: ys)
    else (1, y) :: columnsOf fuel (x :: xs) ys

/-- Which of two sources is found to be out of order. That is looked at only after a line that the
sources do not share, which `seen` tells. `fuel` bounds the number of lines. -/
def disorderOf (fuel : Nat) (seen : Bool) (a b : List String) : Bool × Bool :=
  let drops (x : String) (xs : List String) : Bool := match xs with
    | y :: _ => y < x
    | [] => false
  match fuel, a, b with
  | 0, _, _ | _, [], [] => (false, false)
  | fuel + 1, x :: xs, [] =>
    let r := disorderOf fuel true xs []
    (drops x xs || r.1, r.2)
  | fuel + 1, [], y :: ys =>
    let r := disorderOf fuel true [] ys
    (r.1, drops y ys || r.2)
  | fuel + 1, x :: xs, y :: ys =>
    if x == y then
      let r := disorderOf fuel seen xs ys
      (seen && drops x xs || r.1, seen && drops y ys || r.2)
    else if x < y then
      let r := disorderOf fuel true xs (y :: ys)
      (drops x xs || r.1, r.2)
    else
      let r := disorderOf fuel true (x :: xs) ys
      (r.1, drops y ys || r.2)

/-- Prints which lines two sorted sources have in common. -/
def commonLines : Tool := fun args =>
  withArguments "comm" "123z" "" 1 args fun a => do
    match a.others with
    | [p, q] =>
      match ← source "comm" p 1 with
      | none => pure ()
      | some x =>
        match ← source "comm" q 1 with
        | none => pure ()
        | some y =>
          let xs := linesOf x.text
          let ys := linesOf y.text
          let hidden (n : Nat) : Bool := a.has (Char.ofNat (49 + n))
          let rows := columnsOf (xs.length + ys.length) xs ys
          sayLines (rows.filterMap fun (n, l) =>
            if hidden n then none
            else
              let tabs := (List.range n).countP fun i => !hidden i
              some (String.ofList (List.replicate tabs '\t') ++ l))
          let (first, second) := disorderOf (xs.length + ys.length) false xs ys
          if first then complain "comm: file 1 is not in sorted order" 1
          if second then complain "comm: file 2 is not in sorted order" 1
          if first || second then warn "comm: input is not in sorted order"
    | [] => misuse "comm" "missing operand" 1
    | [p] => misuse "comm" ("missing operand after " ++ cited p) 1
    | _ :: _ :: p :: _ => misuse "comm" ("extra operand " ++ cited p) 1

/-- Prints lines in any order. -/
def anyOrder : Tool := fun args =>
  let names :=
    [("echo", 'e'), ("input-range", 'i'), ("head-count", 'n'), ("output", 'o'), ("repeat", 'r'),
      ("zero-terminated", 'z')]
  withArguments "shuf" "erz" "ino" 1 (spellOut names args) fun a => do
    let limit := (a.value? 'n').map number?
    if limit == some none then
      return ← complain ("shuf: invalid line count: " ++ cited ((a.value? 'n').getD "")) 1
    let found ← match a.value? 'i' with
      | some range =>
        match (range.splitOn "-").map number? with
        | [some m, some n] =>
          if n + 1 < m then do
            complain ("shuf: invalid input range: " ++ cited range) 1
            pure []
          else pure ((List.range (n + 1 - m)).map fun k => toString (m + k))
        | _ => do
          complain ("shuf: invalid input range: " ++ cited range) 1
          pure []
      | none =>
        if a.has 'e' then pure a.others
        else match a.others with
          | _ :: extra :: _ => do
            misuse "shuf" ("extra operand " ++ cited extra) 1
            pure []
          | others => do
            match ← source "shuf" (others.headD "-") 1 with
            | some d => pure (linesOf d.text)
            | none => pure []
    sayLines (match limit with
      | some (some n) => found.take n
      | _ => found)

end AstCompare.Shell.Tool
