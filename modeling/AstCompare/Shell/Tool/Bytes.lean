import AstCompare.Shell.Regex
import AstCompare.Shell.Tool.Basic

/-!
# Programs for bytes

Replacing bytes, copying blocks of them, and showing them as numbers.

## Main definitions

* `translate`, `copyBlocks`, `octalDump`: the programs.
-/

namespace AstCompare.Shell.Tool

/-! ### Bytes -/

/-- The next character of a set for `tr`, where a backslash protects or changes it, and what
follows. -/
def setCharacter : List Char → Option (Char × List Char)
  | [] => none
  | '\\' :: c :: cs =>
    let octal (c : Char) : Bool := '0' ≤ c && c ≤ '7'
    if octal c then
      let ds := (c :: cs.takeWhile octal).take 3
      some (Char.ofNat (ds.foldl (fun n d => n * 8 + (d.toNat - 48)) 0 % 256),
        (c :: cs).drop ds.length)
    else
      some (match c with
        | 'n' => '\n'
        | 't' => '\t'
        | 'r' => '\r'
        | 'a' => '\x07'
        | 'b' => '\x08'
        | 'f' => '\x0c'
        | 'v' => '\x0b'
        | c => c, cs)
  | c :: cs => some (c, cs)

/-- All bytes, as characters. -/
def allBytes : List Char :=
  (List.range 256).map Char.ofNat

/-- A part of a set for `tr`. -/
inductive SetItem where
  | chars (cs : List Char)
  /-- The characters of a class. -/
  | named (name : String) (cs : List Char)
  /-- The characters that count as the same as one. -/
  | alike (c : Char)
  /-- A character so often; never stands for as often as it takes. -/
  | repeated (c : Char) (count : Nat)

/-- The characters of a part. -/
def SetItem.toList : SetItem → List Char
  | .chars cs | .named _ cs => cs
  | .alike c => [c]
  | .repeated c n => List.replicate n c

/-- The part is the class of the small or of the large letters. -/
def SetItem.isCase : SetItem → Bool
  | .named name _ => name == "lower" || name == "upper"
  | _ => false

/-- The part is a class of characters. -/
def SetItem.isClass : SetItem → Bool
  | .named _ _ => true
  | _ => false

/-- The part is a character as often as it takes. -/
def SetItem.isFill : SetItem → Bool
  | .repeated _ 0 => true
  | _ => false

/-- The characters up to a sign and a closing bracket, and what follows these. -/
def upToClose (sign : Char) (taken : List Char) : List Char → Option (List Char × List Char)
  | [] | [_] => none
  | c :: d :: cs =>
    if c == sign && d == ']' then some (taken.reverse, cs)
    else upToClose sign (c :: taken) (d :: cs)

/-- A count in a set, which is octal if it starts with a zero. -/
def repeatCount? (ds : List Char) : Option Nat :=
  let base := if ds.head? == some '0' then 8 else 10
  ds.foldlM (fun n c =>
    if c.isDigit && c.toNat - 48 < base then some (n * base + (c.toNat - 48)) else none) 0

/-- A part in brackets: a class, one character and those like it, or a repetition; and what follows
it. The opening bracket has been read. -/
def bracketItem? (cs : List Char) : Except String (Option (SetItem × List Char)) :=
  let repetition : Except String (Option (SetItem × List Char)) :=
    match setCharacter cs with
    | some (c, '*' :: rest) =>
      let digits := rest.takeWhile (· != ']')
      match rest.drop digits.length, repeatCount? digits with
      | _ :: rest, some n => .ok (some (.repeated c n, rest))
      | _ :: _, none =>
        .error ("invalid repeat count " ++ cited (String.ofList digits) ++ " in [c*n] construct")
      | [], _ => .ok none
    | _ => .ok none
  match cs with
  | ':' :: rest =>
    match upToClose ':' [] rest with
    | none => repetition
    | some (name, rest) =>
      let name := String.ofList name
      if name.isEmpty then .error "missing character class name '[::]'"
      else match characterClass? name with
        | some p => .ok (some (.named name (allBytes.filter p), rest))
        | none => .error ("invalid character class " ++ cited name)
  | '=' :: rest =>
    match upToClose '=' [] rest with
    | none => repetition
    | some ([], _) => .error "missing equivalence class character '[==]'"
    | some ([c], rest) => .ok (some (.alike c, rest))
    | some (cs, _) =>
      .error (String.ofList cs ++ ": equivalence class operand must be a single character")
  | _ => repetition

/-- The parts of a set for `tr`. `fuel` bounds their number. -/
def readSetItems (fuel : Nat) (cs : List Char) : Except String (List SetItem) :=
  match fuel, cs with
  | 0, _ | _, [] => .ok []
  | fuel + 1, cs => do
    let bracketed ← match cs with
      | '[' :: rest => bracketItem? rest
      | _ => pure none
    match bracketed, setCharacter cs with
    | some (item, more), _ => return item :: (← readSetItems fuel more)
    | none, none => return []
    | none, some (c, '-' :: rest) =>
      match setCharacter rest with
      | none => return [.chars [c, '-']]
      | some (e, more) =>
        if e < c then
          .error ("range-endpoints of '" ++ String.ofList [c, '-', e] ++
            "' are in reverse collating sequence order")
        else
          let range := (List.range (e.toNat + 1 - c.toNat)).map fun i => Char.ofNat (c.toNat + i)
          return .chars range :: (← readSetItems fuel more)
    | none, some (c, more) => return .chars [c] :: (← readSetItems fuel more)

/-- Where the classes of small and large letters start in a set. -/
def caseStarts (start : Nat) : List SetItem → List Nat
  | [] => []
  | i :: rest => (if i.isCase then [start] else []) ++ caseStarts (start + i.toList.length) rest

/-- The characters of a set. The one that fills it is repeated until there are as many as wanted. -/
def setOf (wanted : Nat) (items : List SetItem) : List Char :=
  let others := (items.map fun i => i.toList.length).foldl (· + ·) 0
  items.flatMap fun i => match i with
    | .repeated c 0 => List.replicate (wanted - others) c
    | i => i.toList

/-- What is wrong with replacing the characters of one set, of which there are so many, by those of
another. -/
def replacementFault? (complemented truncated : Bool) (size : Nat) (source target : List SetItem) :
    Option String :=
  let cs := setOf size target
  let named := target.filter SetItem.isClass
  if target.any fun i => match i with
      | .alike _ => true
      | _ => false then
    some "[=c=] expressions may not appear in string2 when translating"
  else if named.any fun i => !i.isCase then
    some ("when translating, the only character classes that may appear in\n" ++
      "string2 are 'upper' and 'lower'")
  else if (caseStarts 0 target).any fun n =>
      n < size && (complemented || !(caseStarts 0 source).contains n) then
    some "misaligned [:upper:] and/or [:lower:] construct"
  else if cs.length < size && !truncated && cs.isEmpty then
    some "when not truncating set1, string2 must be non-empty"
  else if cs.length < size && !truncated && (target.getLast?.map SetItem.isClass).getD false then
    some ("when translating with string1 longer than string2,\n" ++
      "the latter string must not end with a character class")
  else if complemented && source.any SetItem.isClass && !cs.all (some · == cs.head?) then
    some ("when translating with complemented character classes,\n" ++
      "string2 must map all characters in the domain to one")
  else none

/-- Leaves out characters of a set that follow themselves. -/
def squeezeChars (p : Char → Bool) (before : Option Char) : List Char → List Char
  | [] => []
  | c :: cs =>
    if before == some c && p c then squeezeChars p before cs else c :: squeezeChars p (some c) cs

/-- The text ends in a backslash that protects nothing. -/
def endsInBackslash (s : String) : Bool :=
  (s.toList.reverse.takeWhile (· == '\\')).length % 2 == 1

/-- Deletes or replaces bytes of its input. -/
def translate : Tool := fun args => do
  let a := readArguments ['d', 's', 'c', 'C', 't'] [] false {} none
    (spellOut [("delete", 'd'), ("squeeze-repeats", 's'), ("complement", 'c'),
      ("truncate-set1", 't')] args)
  let misused (s : String) : Doing Unit := misuse "tr" s 1
  match a.unknown with
  | some '-' =>
    misused ("unrecognized option '" ++
      (args.find? fun s => s.startsWith "--" && s != "--").getD "" ++ "'")
  | some c => misused ("invalid option -- '" ++ String.singleton c ++ "'")
  | none =>
    let delete := a.has 'd'
    let twice := a.has 's'
    let complement := a.has 'c' || a.has 'C'
    let table (p : Char → Bool) : Array Bool := (allBytes.map p).toArray
    let withSet (s : String) (f : List SetItem → Doing Unit) : Doing Unit := do
      if endsInBackslash s then
        warn "tr: warning: an unescaped backslash at end of string is not portable"
      match readSetItems s.length s.toList with
      | .error e => complain ("tr: " ++ e) 1
      | .ok items => f items
    -- Nothing may be repeated as often as it takes in the first set.
    let withSource (s : String) (f : List SetItem → List Char → Doing Unit) : Doing Unit :=
      withSet s fun items =>
        if items.any SetItem.isFill then
          complain "tr: the [c*] repeat construct may not appear in string1" 1
        else
          let cs := setOf 0 items
          if complement then
            let present := table fun c => cs.contains c
            f items (allBytes.filter fun c => !(present[c.toNat]?.getD false))
          else f items cs
    let member (cs : List Char) : Char → Bool :=
      let present := table fun c => cs.contains c
      fun c => present[c.toNat]?.getD false
    let through (f : List Char → List Char) : Doing Unit := do
      let text := (← takeInput).text
      say (String.ofList (f text.toList))
    match a.others with
    | [] => misused "missing operand"
    | [s] =>
      if delete then
        if twice then
          misused ("missing operand after " ++ cited s ++
            "\nTwo strings must be given when both deleting and squeezing repeats.")
        else withSource s fun _ cs =>
          let p := member cs
          through fun text => text.filter fun c => !p c
      else if twice then withSource s fun _ cs => through (squeezeChars (member cs) none)
      else
        misused ("missing operand after " ++ cited s ++
          "\nTwo strings must be given when translating.")
    | [s, t] =>
      if delete && !twice then
        misused ("extra operand " ++ cited t ++
          "\nOnly one string may be given when deleting without squeezing repeats.")
      else withSource s fun sourceItems source => withSet t fun targetItems =>
        let target := setOf source.length targetItems
        if 1 < targetItems.countP SetItem.isFill then
          complain "tr: only one [c*] repeat construct may appear in string2" 1
        else if delete then
          if targetItems.any SetItem.isFill then
            complain "tr: the [c*] construct may appear in string2 only when translating" 1
          else
            let p := member source
            through fun text => squeezeChars (member target) none (text.filter fun c => !p c)
        else
          match replacementFault? complement (a.has 't') source.length sourceItems targetItems with
          | some problem => complain ("tr: " ++ problem) 1
          | none =>
            let source := if a.has 't' then source.take target.length else source
            let last := target.getLast?
            let pairs := source.zip (target ++
              List.replicate (source.length - target.length) (last.getD '\x00'))
            let changes : Array Char := pairs.foldl (fun arr (c, e) => arr.setIfInBounds c.toNat e)
              allBytes.toArray
            let replaced (text : List Char) : List Char :=
              text.map fun c => changes[c.toNat]?.getD c
            through fun text =>
              if twice then squeezeChars (member target) none (replaced text) else replaced text
    | _ :: _ :: s :: _ => misused ("extra operand " ++ cited s)

/-- The value of an argument that is given by name. -/
def named? (name : String) (args : List String) : Option String :=
  args.findSome? fun a => (a.dropPrefix? (name ++ "=")).map (·.toString)

/-- Copies blocks of bytes. -/
def copyBlocks : Tool := fun args => do
  let operands := ["if", "of", "bs", "ibs", "obs", "cbs", "count", "skip", "seek", "conv", "status",
    "iflag", "oflag"]
  let counts := ["bs", "ibs", "obs", "cbs", "count", "skip", "seek"]
  let operand (s : String) : String := (s.splitOn "=").headD ""
  if let some s := args.find? fun s => !(s.contains '=' && operands.contains (operand s)) then
    misuse "dd" ("unrecognized operand " ++ cited s) 1
    return
  if let some v := counts.findSome? fun n => (named? n args).filter fun v => (amount? v).isNone then
    complain ("dd: invalid number: " ++ quoted v) 1
    return
  let size (name : String) : Option Nat := (named? name args).bind amount?
  let block := ((size "bs").or (size "ibs")).getD 512
  let skip := ((size "skip").getD 0) * block
  let source ← match named? "if" args with
    | some p => readFile p
    | none => do
      let d := (← get).input
      match size "count" with
      | some n =>
        takeBytes (skip + n * block)
        pure (.ok d)
      | none => pure (.ok (← takeInput))
  match source with
  | .error e =>
    complain ("dd: failed to open " ++ quoted ((named? "if" args).getD "") ++ ": " ++ e.reason) 1
  | .ok d =>
    let d := d.drop skip
    let d := match size "count" with
      | some n => d.take (n * block)
      | none => d
    let conv := ((named? "conv" args).getD "").splitOn ","
    let d : Data := if conv.contains "ucase" then .ofText (d.text.map Char.toUpper)
      else if conv.contains "lcase" then .ofText (d.text.map Char.toLower) else d
    let n := d.size
    match named? "of" args with
    | none => put d
    | some p =>
      let present := (← readFile p).toOption.getD .empty
      let seek := ((size "seek").getD 0) * block
      let old := if conv.contains "notrunc" then present else present.take seek
      match ← writeFile p (writeAt old seek d) with
      | none => pure ()
      | some e => complain ("dd: failed to open " ++ quoted p ++ ": " ++ e.reason) 1
    if (← get).status = 0 && named? "status" args != some "none" then
      let records :=
        toString (n / max block 1) ++ "+" ++ (if n % max block 1 == 0 then "0" else "1")
      warn (records ++ " records in\n" ++ records ++ " records out")
      if named? "status" args != some "noxfer" then
        warn (toString n ++ " bytes copied, 0.0001 s, 1.0 MB/s")

/-! ### Numbers of bytes -/

/-- A byte as `od` names it. -/
def byteName (n : Nat) : String :=
  match n with
  | 0 => "\\0"
  | 7 => "\\a"
  | 8 => "\\b"
  | 9 => "\\t"
  | 10 => "\\n"
  | 11 => "\\v"
  | 12 => "\\f"
  | 13 => "\\r"
  | n =>
    if 32 ≤ n && n < 127 then String.singleton (Char.ofNat n)
    else
      let ds := String.ofList (Nat.toDigits 8 n)
      String.ofList (List.replicate (3 - ds.length) '0') ++ ds

/-- A number in a base, with zeros in front up to a width. -/
def zeroPadded (base width n : Nat) : String :=
  let ds := String.ofList (Nat.toDigits base n)
  String.ofList (List.replicate (width - ds.length) '0') ++ ds

/-- A byte by the name of its character. -/
def characterName (n : Nat) : String :=
  let n := n % 128
  if n == 32 then "sp" else if n == 127 then "del"
  else
    (["nul", "soh", "stx", "etx", "eot", "enq", "ack", "bel", "bs", "ht", "nl", "vt", "ff", "cr",
      "so", "si", "dle", "dc1", "dc2", "dc3", "dc4", "nak", "syn", "etb", "can", "em", "sub", "esc",
      "fs", "gs", "rs", "us"][n]?).getD (String.singleton (Char.ofNat n))

/-- How `od` writes a group of bytes: the letter and the size of the group. -/
def groupText (kind : Char) (size : Nat) (bytes : List Nat) : String :=
  let n := bytes.reverse.foldl (fun n b => n * 256 + b) 0
  let bits := 8 * size
  match kind with
  | 'c' => padLeft 4 (byteName n)
  | 'a' => padLeft 4 (characterName n)
  | 'x' => " " ++ zeroPadded 16 (2 * size) n
  | 'o' => " " ++ zeroPadded 8 ((bits + 2) / 3) n
  | 'u' => " " ++ padLeft (toString (Nat.pow 2 bits - 1)).length (toString n)
  | _ =>
    let signed : Int := if Nat.pow 2 (bits - 1) ≤ n then (n : Int) - Nat.pow 2 bits else n
    " " ++ padLeft ((toString (Nat.pow 2 (bits - 1))).length + 1) (toString signed)

/-- The elements in groups. `fuel` bounds their number. -/
def inGroups (size fuel : Nat) (ns : List Nat) : List (List Nat) :=
  match fuel, ns with
  | 0, _ | _, [] => []
  | fuel + 1, ns => ns.take size :: inGroups size fuel (ns.drop size)

/-- The lines of `od`. Lines that repeat the one before are shown as one star. -/
def dumpRows (address : Nat → String) (row : List Nat → List String) (all : Bool) (position : Nat)
    (before : Option (List Nat)) (starred : Bool) : List (List Nat) → List String
  | [] => []
  | ns :: rest =>
    let next := position + ns.length
    if before == some ns && !all && !rest.isEmpty then
      (if starred then [] else ["*"]) ++ dumpRows address row all next before true rest
    else
      let ls := row ns
      let blank := String.ofList (List.replicate (address 0).length ' ')
      ((ls.head?.map fun l => address position ++ l).toList ++ ls.tail.map (blank ++ ·)) ++
        dumpRows address row all next (some ns) false rest

/-- Prints bytes as numbers. -/
def octalDump : Tool := fun args =>
  withArguments "od" "cxbdov" "AtNjw" 1 args fun a => do
    let skipped := ((a.value? 'j').bind amount?).getD 0
    let limit := (a.value? 'N').bind amount?
    let parts : List (Option Data) ← match limit, a.others with
      | some n, [] => do
        let d := (← get).input
        takeBytes (skipped + n)
        pure [some d]
      | none, [] => do pure [some (← takeInput)]
      | _, ps => ps.mapM fun p => source "od" p 1
    if parts.all Option.isNone then return
    let b := Data.join (parts.filterMap id)
    let b := b.drop skipped
    let b := match limit with
      | some n => b.take n
      | none => b
    let size (s : String) : Nat := match s with
      | "1" | "C" => 1
      | "2" | "S" => 2
      | "8" | "L" => 8
      | _ => 4
    let formats := a.flags.filterMap fun c => match c with
      | 'c' => some ('c', 1)
      | 'x' => some ('x', 2)
      | 'b' => some ('o', 1)
      | 'd' => some ('u', 2)
      | 'o' => some ('o', 2)
      | _ => none
    let given := (a.values.filter (·.1 == 't')).filterMap fun (_, s) =>
      match s.toList with
      | 'c' :: _ => some ('c', 1)
      | 'a' :: _ => some ('a', 1)
      | k :: cs => some (k, size (String.ofList (cs.filter (· != 'z'))))
      | [] => none
    let readable := a.values.any fun v => v.1 == 't' && v.2.endsWith "z"
    let formats := if (formats ++ given).isEmpty then [('o', 2)] else formats ++ given
    let address (n : Nat) : String := match a.value? 'A' with
      | some "n" => ""
      | some "d" => zeroPadded 10 7 n
      | some "x" => zeroPadded 16 6 n
      | _ => zeroPadded 8 7 n
    let width := ((a.value? 'w').bind number?).getD 16
    let row (ns : List Nat) : List String := formats.map fun (k, s) =>
      let text := String.join ((inGroups s ns.length ns).map fun g => groupText k s g)
      if readable then
        let full := (groupText k s (List.replicate s 0)).length * ((width + s - 1) / s)
        padRight full text ++ "  >" ++ String.ofList (ns.map fun n =>
          if 32 ≤ n && n < 127 then Char.ofNat n else '.') ++ "<"
      else text
    let ns := b.data.toList.map UInt8.toNat
    let ls := dumpRows address row (a.has 'v') skipped none false (inGroups width ns.length ns)
    let stop := address (skipped + ns.length)
    sayLines (if stop.isEmpty then ls else ls ++ [stop])

end AstCompare.Shell.Tool
