import AstCompare.Shell.Printf
import AstCompare.Shell.Tool.Files

/-!
# Programs that look at files

Telling about files, finding out where paths lead, and comparing files byte by byte.

## Main definitions

* `entrySize`, `entryBlocks`, `entryNames`, `fileStatus`: what is known about an entry.
* `realPath`, `readLink`: where paths lead.
* `makeTemporary`: files with names of their own.
* `compareFiles`: the first difference between files.
-/

namespace AstCompare.Shell.Tool

/-- The names in a directory in the order of their bytes. -/
def namesIn (d : Disk) (l : Location) : List String :=
  ((d.names l).map octets).mergeSort fun a b => decide (a ≤ b)

/-- The path that a link stands for. -/
def linkText (d : Disk) : LinkTarget → String
  | .path p => octets p
  | .workingDirectory => pathOf d.cwd

/-- The size of an entry in bytes. -/
def entrySize (d : Disk) : Entry → Nat
  | .directory _ => 4096
  | .file _ c _ => c.size
  | .link t => (linkText d t).length
  | .device _ | .pipe _ _ => 0

/-- The number of blocks on the disk that an entry takes. -/
def entryBlocks (d : Disk) (e : Entry) : Nat :=
  match e with
  | .link _ => 0
  | e => (entrySize d e + 4095) / 4096 * 4

/-- The number of names that an entry has. -/
def entryNames (d : Disk) (l : Location) : Entry → Nat
  | .directory _ => 2 + ((d.below l).filter fun (k, e) => k.length == 1 && e.isDirectory).length
  | .file id _ _ => max 1 (d.nameCount id)
  | _ => 1

/-- When an entry was changed, in a listing. What is older than half a year has a year. -/
def listedMoment (d : Disk) (e : Entry) : String :=
  let t := momentOf e.attributes.modified
  let now := momentOf d.now
  if now - 15778476 < t && t ≤ now then momentText t "%b %e %H:%M".toList
  else momentText t "%b %e  %Y".toList

/-! ### Where paths lead -/

/-- How much of a path has to be there. -/
inductive Demand where
  | all
  | parent
  | nothing
  deriving DecidableEq, Repr

/-- The location that a path means, by names only from where nothing stands. `fuel` bounds the
number of parts. -/
def lexical (d : Disk) (fuel : Nat) (l : Location) (parts : List String) : Location :=
  match fuel, parts with
  | 0, _ | _, [] => l
  | fuel + 1, piece :: rest =>
    match d.walk true Disk.maxLinks l [piece], d.get? (l ++ [piece]) with
    | .ok m, _ => lexical d fuel m rest
    | .error .notFound, some (.link (.path p)) =>
      lexical d fuel (if Path.isAbsolute p then [] else l) (p.splitOn "/" ++ rest)
    | .error _, _ =>
      lexical d fuel
        (if piece == ".." then l.dropLast
        else if piece == "" || piece == "." then l
        else l ++ [piece]) rest

/-- The full path that a path means. -/
def fullPath (d : Disk) (demand : Demand) (p : String) : Except DiskError String :=
  match demand with
  | .nothing =>
    let parts := (unoctets p).splitOn "/"
    .ok (pathOf (lexical d (parts.length + 1000) (if p.startsWith "/" then [] else d.cwd) parts))
  | .all => (d.stat (unoctets p)).map fun x => pathOf x.1
  | .parent =>
    match d.locate (unoctets p) with
    | .error e => .error e
    | .ok l =>
      match d.get? l with
      | some e =>
        if Disk.endsInSlash p && !e.isDirectory then .error .notDirectory else .ok (pathOf l)
      | none =>
        if (d.get? l.dropLast).any Entry.isDirectory then .ok (pathOf l) else .error .notFound

/-- Prints the full paths of files. -/
def realPath : Tool := fun args =>
  let names :=
    [("canonicalize-existing", 'e'), ("canonicalize-missing", 'm'), ("quiet", 'q'), ("zero", 'z'),
      ("no-symlinks", 's'), ("strip", 's')]
  withArguments "realpath" "emsqzLPE" "" 1 (spellOut names args) fun a => do
    if a.others.isEmpty then misuse "realpath" "missing operand" 1
    for p in a.others do
      let demand := if a.has 'm' || a.has 's' then .nothing else if a.has 'e' then .all else .parent
      match fullPath (← get).disk demand p with
      | .ok s => say (s ++ if a.has 'z' then "\x00" else "\n")
      | .error e =>
        if a.has 'q' then atLeast 1 else complain ("realpath: " ++ shown p ++ ": " ++ e.reason) 1

/-- Tells where links lead. -/
def readLink : Tool := fun args =>
  let names :=
    [("canonicalize", 'f'), ("canonicalize-existing", 'e'), ("canonicalize-missing", 'm'),
      ("no-newline", 'n'), ("quiet", 'q'), ("silent", 's'), ("verbose", 'v'), ("zero", 'z')]
  withArguments "readlink" "femnqsvz" "" 1 (spellOut names args) fun a => do
    if a.others.isEmpty then misuse "readlink" "missing operand" 1
    let d := (← get).disk
    for p in a.others do
      let answer ← if a.has 'f' || a.has 'e' || a.has 'm' then
          pure (fullPath d (if a.has 'm' then .nothing else if a.has 'e' then .all else .parent) p)
        else do
          match ← lstat p with
          | .ok (_, .link t) => pure (.ok (linkText d t))
          | .ok _ => pure (.error .invalid)
          | .error e => pure (.error e)
      match answer with
      | .ok s =>
        let ending :=
          if a.has 'n' && a.others.length == 1 then "" else if a.has 'z' then "\x00" else "\n"
        say (s ++ ending)
      | .error e =>
        if a.has 'v' then complain ("readlink: " ++ shown p ++ ": " ++ e.reason) 1 else atLeast 1

/-- The number that stands for the kind of an entry, before its mode. -/
def kindNumber : Entry → Nat
  | .file _ _ _ => 0o100000
  | .directory _ => 0o040000
  | .link _ => 0o120000
  | .device _ => 0o020000
  | .pipe _ _ => 0o010000

/-- What a format says about an entry. -/
def statusText (d : Disk) (p : String) (l : Location) (e : Entry) : List Char → String
  | '%' :: c :: cs =>
    let moment := momentOf e.attributes.modified
    let fraction := toString (e.attributes.modified % 1000000).toNat
    let nine := String.ofList (List.replicate (6 - fraction.length) '0') ++ fraction ++ "000"
    (match c with
      | 's' => toString (entrySize d e)
      | 'n' => p
      | 'N' => quoted p ++ match e with
        | .link t => " -> " ++ quoted (linkText d t)
        | _ => ""
      | 'F' => kindWords e
      | 'a' => octalDigits e.attributes.mode
      | 'f' => String.ofList (Nat.toDigits 16 (kindNumber e + e.attributes.mode))
      | 'A' => modeLetters e
      | 'U' => if e.attributes.own then "nobody" else "root"
      | 'G' => if e.attributes.own then "nogroup" else "root"
      | 'u' | 'g' => if e.attributes.own then "65534" else "0"
      | 'h' => toString (entryNames d l e)
      | 'i' => match e with
        | .file id _ _ | .pipe id _ => toString (1000 + id)
        | _ => "2"
      | 'b' => toString (entryBlocks d e * 2)
      | 'B' => "512"
      | 'o' => "4096"
      | 'y' | 'x' | 'z' => momentText moment "%Y-%m-%d %H:%M:%S.".toList ++ nine ++ " +0000"
      | 'Y' | 'X' | 'Z' => toString moment
      | 'w' => "-"
      | 'W' => "0"
      | '%' => "%"
      | _ => "?") ++ statusText d p l e cs
  | c :: cs => String.singleton c ++ statusText d p l e cs
  | [] => ""

/-- Tells about files, by a format. -/
def fileStatus : Tool := fun args =>
  let names := [("format", 'c'), ("printf", 'p'), ("dereference", 'L')]
  withArguments "stat" "Lft" "cp" 1 (spellOut names args) fun a => do
    if a.others.isEmpty then misuse "stat" "missing operand" 1
    for p in a.others do
      match ← (if a.has 'L' then stat p else lstat p) with
      | .error e => complain ("stat: cannot statx " ++ quoted p ++ ": " ++ e.reason) 1
      | .ok (l, e) =>
        let d := (← get).disk
        match a.value? 'p' with
        | some f => say (statusText d p l e (escapes f.toList).1)
        | none => say (statusText d p l e ((a.value? 'c').getD "%n").toList ++ "\n")

/-! ### Others -/

/-- Makes a file or a directory with a name of its own, and tells it. -/
def makeTemporary : Tool := fun args =>
  let names :=
    [("directory", 'd'), ("tmpdir", 'p'), ("dry-run", 'u'), ("quiet", 'q'), ("suffix", 's')]
  withArguments "mktemp" "duqt" "ps" 1 (spellOut names args) fun a => do
    let w ← get
    let home := ((w.environment.lookup "TMPDIR").filter fun s => !s.isEmpty).getD "/tmp"
    let given := a.others.headD "tmp.XXXXXXXXXX"
    let template := match a.value? 'p' with
      | some dir => within (if dir.isEmpty then home else dir) given
      | none => if a.has 't' || a.others.isEmpty then within home given else given
    let d := w.disk
    let ending :=
      (a.value? 's').getD (String.ofList (template.toList.reverse.takeWhile (· != 'X')).reverse)
    let ending := if template.contains 'X' then ending else ""
    let start :=
      if (a.value? 's').isSome then template else (template.dropEnd ending.length).toString
    let body := start.toList.reverse.dropWhile (· == 'X')
    let count := start.length - body.length
    let name (n : Nat) : String :=
      let digits := toString n
      String.ofList body.reverse ++
        String.ofList (List.replicate (count - digits.length) 'a') ++ digits ++ ending
    let kind := if a.has 'd' then "directory" else "file"
    if count < 3 then complain ("mktemp: too few X's in template " ++ cited given) 1
    else
      match (List.range 1000).find? fun n => !d.hasEntry (unoctets (name n)) with
      | none => complain "mktemp: failed to create file" 1
      | some n =>
        let p := unoctets (name n)
        let e ← if a.has 'u' then pure none
          else if a.has 'd' then change fun d => d.create p (.directory (d.fresh 0o700))
          else change fun d =>
            { d with nextId := d.nextId + 1 }.create p (.file d.nextId .empty (d.fresh 0o600))
        match e with
        | none => say (name n ++ "\n")
        | some e =>
          if a.has 'q' then atLeast 1
          else complain ("mktemp: failed to create " ++ kind ++ " via template " ++
            cited template ++ ": " ++ e.reason) 1

/-- Compares two files byte by byte. -/
def compareFiles : Tool := fun args =>
  withArguments "cmp" "slb" "in" 2
    (spellOut [("silent", 's'), ("quiet", 's'), ("verbose", 'l')] args)
    fun a => do
    match a.others with
    | [] => misuse "cmp" "missing operand after 'cmp'" 2
    | p :: rest =>
      let q := rest.headD "-"
      match ← sourceOr ("cmp: " ++ p) p 2 with
      | none => pure ()
      | some b =>
        match ← sourceOr ("cmp: " ++ q) q 2 with
        | none => pure ()
        | some b' =>
          if b == b' then pure ()
          else
            atLeast 1
            let shared := min b.size b'.size
            let differing := (List.range shared).filter fun i => (b[i]?) != (b'[i]?)
            let octal (v : Option UInt8) : String :=
              padLeft 3 (octalDigits ((v.map UInt8.toNat).getD 0))
            let linesBefore (n : Nat) : Nat := ((b.extract 0 n).data.filter (· == 10)).size
            if a.has 's' then pure ()
            else
              if a.has 'l' then
                let width := (toString shared).length
                sayLines (differing.map fun i =>
                  padLeft width (toString (i + 1)) ++ " " ++ octal b[i]? ++ " " ++ octal b'[i]?)
              else
                match differing with
                | i :: _ =>
                  say (p ++ " " ++ q ++ " differ: char " ++ toString (i + 1) ++ ", line " ++
                    toString (linesBefore i + 1) ++ "\n")
                | [] => pure ()
              if (a.has 'l' || differing.isEmpty) && b.size != b'.size then
                let shorter := if b.size < b'.size then p else q
                if shared = 0 then warn ("cmp: EOF on " ++ shorter ++ " which is empty")
                else if a.has 'l' then
                  warn ("cmp: EOF on " ++ shorter ++ " after byte " ++ toString shared)
                else
                  let n := linesBefore shared
                  let place := if (b[shared - 1]?) = some 10 then ", line " ++ toString n
                    else ", in line " ++ toString (n + 1)
                  warn ("cmp: EOF on " ++ shorter ++ " after byte " ++ toString shared ++ place)

end AstCompare.Shell.Tool
