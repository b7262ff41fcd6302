import AstCompare.Shell.Tool.Modes
import AstCompare.Shell.Tool.Moments

/-!
# Programs that change files and directories

Copying, moving, linking, removing and making. A target that is a directory takes what it is given
under the same name.

## Main definitions

* `concatenate`: files one after the other.
* `copyFiles`, `moveFiles`, `linkFiles`, `install`: transfers.
* `removeFiles`, `removeDirectories`, `makeDirectories`, `touch`, `truncateFiles`, `makePipes`: the
  others.
-/

namespace AstCompare.Shell.Tool

/-! ### Contents -/

/-- A line with its number. -/
def numbered (n : Nat) (l : String) : String :=
  let digits := toString n
  String.ofList (List.replicate (6 - digits.length) ' ') ++ digits ++ "\t" ++ l

/-- Numbers lines; with `filled` only those that are not empty. -/
def numberLines (filled : Bool) (n : Nat) : List String → List String
  | [] => []
  | l :: ls =>
    if filled && l.isEmpty then l :: numberLines filled n ls
    else numbered n l :: numberLines filled (n + 1) ls

/-- Leaves out empty lines that follow empty lines. -/
def squeeze (before : Bool) : List String → List String
  | [] => []
  | l :: ls => if before && l.isEmpty then squeeze true ls else l :: squeeze l.isEmpty ls

/-- A character that cannot be seen, written with signs that can. -/
def visible (tabs : Bool) (c : Char) : String :=
  let low (n : Nat) : String :=
    if n < 32 then "^" ++ String.singleton (Char.ofNat (n + 64))
    else if n = 127 then "^?" else String.singleton (Char.ofNat n)
  if c = '\t' && !tabs then "\t"
  else if c = '\n' then "\n"
  else if c.toNat < 128 then low c.toNat
  else "M-" ++ low (c.toNat - 128)

/-- The letters that stand for the options of `concatenate`. -/
def concatenateNames : List (String × Char) :=
  [("number", 'n'), ("number-nonblank", 'b'), ("squeeze-blank", 's'), ("show-ends", 'E'),
    ("show-tabs", 'T'), ("show-all", 'A'), ("show-nonprinting", 'v')]

/-- Prints its input, or files. -/
def concatenate : Tool := fun args =>
  withArguments "cat" "nbsETAvetu" "" 1 (spellOut concatenateNames args) fun a => do
    let has (cs : List Char) : Bool := cs.any a.has
    if !has ['n', 'b', 's', 'E', 'T', 'A', 'v', 'e', 't'] then
      for p in (if a.others.isEmpty then ["-"] else a.others) do
        let isOutput := match ← stat p, (← get).output with
          | .ok (_, .file id _ _), some (out, position) => id == out && 0 < position
          | _, _ => false
        if isOutput then complain ("cat: " ++ shown p ++ ": input file is output file") 1
        else
          match ← source "cat" p 1 with
          | some d => put d
          | none => pure ()
    else
      let text := (← sources "cat" a.others 1).text
      let ls := linesOf text
      let ls := if has ['s'] then squeeze false ls else ls
      let render (l : String) : String :=
        let l := if has ['v', 'A', 'e', 't'] then
            String.join (l.toList.map (visible (has ['T', 'A', 't'])))
          else if has ['T'] then l.replace "\t" "^I" else l
        if has ['E', 'A', 'e'] then l ++ "$" else l
      let ls := if has ['b'] then numberLines true 1 (ls.map render)
        else if has ['n'] then numberLines false 1 (ls.map render) else ls.map render
      if text.endsWith "\n" || ls.isEmpty then sayLines ls
      else
        let out := "\n".intercalate ls
        say (if has ['E', 'A', 'e'] then (out.dropEnd 1).toString else out)

/-! ### Transfers -/

/-- What is done with a source and the path where it lands. -/
abbrev Transfer := String → String → Doing Unit

/-- Carries out a transfer for each source: into a directory, or to the path that is named. -/
def transfer (name : String) (move : Transfer) (a : Arguments) : Doing Unit := do
  let into (dir : String) (ps : List String) : Doing Unit := do
    for p in ps do
      move p (within dir (lastPart p))
  let isTarget (p : String) : Doing Bool := do
    match ← lstat p with
    | .ok (_, .link _) => if a.has 'n' && name == "ln" then return false else isDirectory p
    | _ => isDirectory p
  match a.value? 't', a.others with
  | some _, [] => misuse name "missing file operand" 1
  | some dir, ps => into dir ps
  | none, [] => misuse name "missing file operand" 1
  | none, [p] => misuse name ("missing destination file operand after " ++ quoted p) 1
  | none, [p, target] =>
    if !a.has 'T' && (← isTarget target) then into target [p] else move p target
  | none, ps =>
    let target := ps.getLast?.getD ""
    match ← stat target with
    | .ok (_, .directory _) => into target ps.dropLast
    | .ok _ => complain (name ++ ": target " ++ quoted target ++ ": Not a directory") 1
    | .error e => complain (name ++ ": target " ++ quoted target ++ ": " ++ e.reason) 1

/-- The entries are names of one file, or one entry. -/
def isSameEntry (l m : Location) (e f : Entry) : Bool :=
  (l == m && !l.isEmpty) ||
    match e, f with
    | .file i _ _, .file j _ _ => i == j
    | _, _ => false

/-- How files are copied. -/
structure CopyStyle where
  name : String := "cp"
  /-- Directories are copied with all that is below them. -/
  deep : Bool := false
  /-- What is there stays as it is, or does if it is not older, or if the answer to a question is
  no. -/
  keep : Bool := false
  update : Bool := false
  asks : Bool := false
  /-- A further name is made instead of a copy, or a link. -/
  names : Bool := false
  links : Bool := false
  /-- What cannot be written is removed first. -/
  force : Bool := false
  /-- Modes and times are copied, too. -/
  preserve : Bool := false
  /-- Links are followed. -/
  follow : Bool := true
  /-- What is done is told. -/
  tell : Bool := false

/-- Tells about a copy. -/
def CopyStyle.say (s : CopyStyle) (p target : String) : Doing Unit :=
  if s.tell then Tool.say (quoted p ++ " -> " ++ quoted target ++ "\n") else pure ()

/-- The attributes of a copy. -/
def CopyStyle.attributes (s : CopyStyle) (d : Disk) (a : Attributes) : Attributes :=
  if s.preserve then { a with own := true } else d.fresh (a.mode % 0o1000)

/-- Puts attributes on what stands at a path, if it is known. -/
def setAttributesAt (p : String) (f : Attributes → Attributes) : Doing Unit := do
  match ← stat p with
  | .ok (l, e) => modify fun w => { w with disk := setAttributes w.disk l e (f e.attributes) }
  | .error _ => pure ()

/-- Writes a content to a path. A new file gets the attributes of its source. -/
def CopyStyle.copyContent (s : CopyStyle) (p target : String) (c : Content) (a : Attributes) :
    Doing Unit := do
  let fresh := (← stat target).toOption.isNone
  let unread := fresh && (← lstat target).toOption.isSome
  if unread then complain ("cp: not writing through dangling symlink " ++ quoted target) 1
  else
    let problem ← writeContent target c
    let (problem, fresh) ← if problem = some .refused && s.force then do
        discard <| change fun d => d.remove (unoctets target)
        pure (← writeContent target c, true)
      else pure (problem, fresh)
    match problem with
    | none =>
      if fresh || s.preserve then
        let d := (← get).disk
        setAttributesAt target fun _ => s.attributes d a
      s.say p target
    | some e =>
      let isInFile := e = .notDirectory
      let e := if e = .isDirectory then .notDirectory else e
      complain (s.name ++
        (if isInFile then ": cannot stat "
        else if e = .noSpace then ": error writing "
        else ": cannot create regular file ") ++
        quoted target ++ ": " ++ e.reason) 1

/-- The question before what is there is replaced. -/
def replacing (name target : String) (force : Bool) (a : Attributes) : String :=
  let mode := octalDigits (a.mode % 0o10000)
  let mode := String.ofList (List.replicate (4 - mode.length) '0') ++ mode
  name ++ ": " ++
    (if a.allows .write then "overwrite " ++ quoted target
    else if force then
      "replace " ++ quoted target ++ ", overriding mode " ++ mode ++ " (" ++ rightsOf a.mode ++ ")"
    else "unwritable " ++ quoted target ++ " (mode " ++ mode ++ ", " ++ rightsOf a.mode ++
      "); try anyway") ++ "? "

/-- Makes a further name or a link in place of a copy. -/
def CopyStyle.copyName (s : CopyStyle) (p target : String) (e : Entry) : Doing Unit := do
  let isNear := p.startsWith "/" || parentPart target == "." && !target.startsWith "/"
  if s.links && !isNear then
    complain (s.name ++ ": " ++ shown target ++
      ": can make relative symbolic links only in current directory") 1
  else
    if s.force then discard <| change fun d => d.remove (unoctets target)
    let made := if s.links then .link (.path (unoctets p)) else e
    match ← change fun d => d.create (unoctets target) made with
    | none => s.say p target
    | some e =>
      complain (s.name ++ ": cannot create " ++
        (if s.links then "symbolic link " ++ quoted target ++ " to "
        else "hard link " ++ quoted target ++ " to ") ++ quoted p ++ ": " ++ e.reason) 1

/-- Copies what is no directory. -/
def CopyStyle.copyFile (s : CopyStyle) (p target : String) (l : Location) (e : Entry) :
    Doing Unit := do
  let copy : Doing Unit := do
    if s.names || s.links then
      s.copyName p target e
      return
    match e with
    | .link t =>
      discard <| change fun d => d.remove (unoctets target)
      match ← change fun d => d.create (unoctets target) (.link t) with
      | none => s.say p target
      | some e =>
        complain (s.name ++ ": cannot create symbolic link " ++ quoted target ++ ": " ++ e.reason) 1
    | e =>
      match ← readFile p with
      | .error why =>
        complain (s.name ++ ": cannot open " ++ quoted p ++ " for reading: " ++ why.reason) 1
      | .ok d =>
        let content := match e with
          | .file _ c _ => c
          | _ => .bytes d
        s.copyContent p target content (if e.isFile then e.attributes else { mode := 0o666 })
  match ← stat target with
  | .ok (_, .directory _) =>
    complain (s.name ++ ": cannot overwrite directory " ++ quoted target ++ " with non-directory") 1
  | .ok (m, f) =>
    if s.links || s.names && isSameEntry l m e f && l != m then (if s.names then pure () else copy)
    else if isSameEntry l m e f then
      complain (s.name ++ ": " ++ quoted p ++ " and " ++ quoted target ++ " are the same file") 1
    else if s.keep then pure ()
    else if s.update && e.attributes.modified ≤ f.attributes.modified then pure ()
    else if s.asks then
      if ← ask (replacing s.name target s.force f.attributes) then copy else atLeast 1
    else copy
  | .error _ => copy

/-- Entries with what is above them first, and by name. -/
def inOrder (entries : List (Location × Entry)) : List (Location × Entry) :=
  entries.mergeSort fun a b => !decide (b.1 < a.1)

/-- One may look into a directory. -/
def isOpenTo (d : Disk) (l : Location) : Bool :=
  match d.get? l with
  | some (.directory a) => a.allows .read && a.allows .run
  | _ => true

/-- Copies a directory with all that is below it. -/
def CopyStyle.copyTree (s : CopyStyle) (p target : String) (l : Location) (a : Attributes) :
    Doing Unit := do
  let refused (reason : String) : Doing Unit :=
    complain (s.name ++ ": cannot create directory " ++ quoted target ++ ": " ++ reason) 1
  let d := (← get).disk
  match d.locate (unoctets target) with
  | .error e => refused e.reason
  | .ok m =>
    let isThere := (d.get? m).isSome
    if isThere && !d.isDirectory (unoctets target) then
      complain (s.name ++ ": cannot overwrite non-directory " ++ quoted target ++
        " with directory " ++ quoted p) 1
    else
      let problem ←
        if isThere then pure none
        else
          change fun d =>
            d.create (unoctets target)
              (.directory (s.attributes d { a with mode := a.mode ||| 0o700 }))
      match problem with
      | some e => refused e.reason
      | none =>
        if !isThere then s.say p target
        let inner := inOrder (d.below l)
        -- Nothing is copied from directories that are closed.
        let isHidden (k : Location) : Bool :=
          (List.range k.length).any fun n => !isOpenTo d (l ++ k.take n)
        if !isOpenTo d l then
          complain (s.name ++ ": cannot access " ++ quoted p ++ ": Permission denied") 1
        for (k, e) in inner do
          let path (base : String) : String := within base ("/".intercalate (k.map octets))
          if isHidden k || m.isPrefixOf (l ++ k) then pure ()
          else
            match e with
            | .directory b =>
              if !(← isDirectory (path target)) then
                match ← change fun d => d.create (unoctets (path target))
                    (.directory (s.attributes d { b with mode := b.mode ||| 0o700 })) with
                | none => s.say (path p) (path target)
                | some e =>
                  complain (s.name ++ ": cannot create directory " ++
                    quoted (path target) ++ ": " ++ e.reason) 1
              if !isOpenTo d (l ++ k) then
                complain (s.name ++ ": cannot access " ++ quoted (path p) ++
                  ": Permission denied") 1
            | e =>
              let e :=
                if s.follow then ((d.stat (unoctets (path p))).toOption.map Prod.snd).getD e else e
              s.copyFile (path p) (path target) (l ++ k) e
        -- A directory is closed again when it is full.
        for (k, e) in ([], .directory a) :: inner do
          match e with
          | .directory b =>
            if b.mode &&& 0o700 != 0o700 && (!isThere || !k.isEmpty) then
              let d := (← get).disk
              setAttributesAt
                (if k.isEmpty then target else within target ("/".intercalate (k.map octets)))
                fun _ => s.attributes d b
          | _ => pure ()
        if l.isPrefixOf m then
          complain (s.name ++ ": cannot copy a directory, " ++ quoted p ++ ", into itself, " ++
            quoted target) 1

/-- Copies a file or a directory. -/
def CopyStyle.copyOne (s : CopyStyle) : Transfer := fun p target => do
  match ← (if s.follow then stat p else lstat p) with
  | .error e => complain (s.name ++ ": cannot stat " ++ quoted p ++ ": " ++ e.reason) 1
  | .ok (l, .directory a) =>
    if !s.deep then
      complain (if s.name == "cp" then "cp: -r not specified; omitting directory " ++ quoted p
        else s.name ++ ": omitting directory " ++ quoted p) 1
    else s.copyTree p target l a
  | .ok (l, e) => s.copyFile p target l e

/-- Copies files. -/
def copyFiles : Tool := fun args =>
  let names := [("recursive", 'r'), ("archive", 'a'), ("force", 'f'), ("no-clobber", 'n'),
    ("verbose", 'v'), ("target-directory", 't'), ("no-target-directory", 'T'), ("update", 'u'),
    ("no-dereference", 'P'), ("dereference", 'L'), ("preserve", 'p'), ("interactive", 'i'),
    ("link", 'l'), ("symbolic-link", 's')]
  withArguments "cp" "rRadfpnvTiuxLPHls" "t" 1 (spellOut names args) fun a =>
    let deep := a.has 'r' || a.has 'R' || a.has 'a'
    let last := (a.flags.filter fun c => c == 'n' || c == 'i').getLast?
    let style : CopyStyle := {
      deep, keep := last == some 'n', asks := last == some 'i', names := a.has 'l',
      links := a.has 's', update := a.has 'u', force := a.has 'f', tell := a.has 'v'
      preserve := a.has 'p' || a.has 'a'
      follow := a.has 'L' || !(deep || a.has 'P' || a.has 'd') }
    transfer "cp" style.copyOne a

/-- Moves a file or a directory. A link is moved as it is. -/
def moveOne (keep asks : Bool) : Transfer := fun p target => do
  match ← lstat p with
  | .error e => complain ("mv: cannot stat " ++ quoted p ++ ": " ++ e.reason) 1
  | .ok (l, e) =>
    let d := (← get).disk
    let refused (reason : String) : Doing Unit :=
      complain ("mv: cannot move " ++ quoted p ++ " to " ++ quoted target ++ ": " ++ reason) 1
    let isDir := e.isDirectory
    match d.locateName (unoctets target) with
    | .error e => refused e.reason
    | .ok m =>
      let move : Doing Unit :=
        if !d.mayChange l || !d.mayChange m then refused "Permission denied"
        else modify fun w => { w with disk := w.disk.relocate l m }
      let itself : Doing Unit :=
        complain ("mv: cannot move " ++ quoted p ++ " to a subdirectory of itself, " ++
          quoted target) 1
      let same : Doing Unit :=
        complain ("mv: " ++ quoted p ++ " and " ++ quoted target ++ " are the same file") 1
      match d.get? m with
      | none =>
        if Disk.endsInSlash target && !isDir then refused "Not a directory"
        else if l.isPrefixOf m then itself
        else move
      | some (.directory _) =>
        if l == m then same
        else if !isDir then
          complain ("mv: cannot overwrite directory " ++ quoted target ++ " with non-directory") 1
        else if l.isPrefixOf m then itself
        else if (d.below m).isEmpty then move
        else complain ("mv: cannot overwrite " ++ quoted target ++ ": Directory not empty") 1
      | some f =>
        if l == m then same
        else if isDir then
          complain ("mv: cannot overwrite non-directory " ++ quoted target ++ " with directory " ++
            quoted p) 1
        else if keep then pure ()
        else if isSameEntry l m e f then same
        else if asks then
          if ← ask (replacing "mv" target true f.attributes) then move else atLeast 1
        else move

/-- Moves files. -/
def moveFiles : Tool := fun args =>
  let names := [("force", 'f'), ("no-clobber", 'n'), ("verbose", 'v'), ("target-directory", 't'),
    ("no-target-directory", 'T'), ("interactive", 'i')]
  withArguments "mv" "finuvT" "t" 1 (spellOut names args) fun a =>
    let last := (a.flags.filter fun c => c == 'f' || c == 'i' || c == 'n').getLast?
    transfer "mv" (fun p target => do
      let before := (← get).printed.length
      moveOne (last == some 'n') (last == some 'i') p target
      if a.has 'v' && (← get).printed.length == before then
        say ("renamed " ++ quoted p ++ " -> " ++ quoted target ++ "\n")) a

/-- Makes a link, or a further name for a file. -/
def linkOne (a : Arguments) : Transfer := fun p target => do
  let isSymbolic := a.has 's'
  let kind := if isSymbolic then "symbolic" else "hard"
  let refused (e : DiskError) : Doing Unit :=
    let detail := if isSymbolic || e = .present then "" else " => " ++ quoted p
    complain ("ln: failed to create " ++ kind ++ " link " ++ quoted target ++ detail ++ ": " ++
      e.reason) 1
  let make (e : Entry) : Doing Unit := do
    match ← change fun d => d.create (unoctets target) e with
    | none =>
      if a.has 'v' then
        say (quoted target ++ (if isSymbolic then " -> " else " => ") ++ quoted p ++ "\n")
    | some e => refused e
  let old := (← lstat target).toOption
  let source ← if isSymbolic then pure (.ok ([], .link (.path (unoctets p)))) else lstat p
  match source, old with
  | .error e, _ => complain ("ln: failed to access " ++ quoted p ++ ": " ++ e.reason) 1
  | .ok (l, e), old =>
    if !isSymbolic && e.isDirectory then
      complain ("ln: " ++ shown p ++ ": hard link not allowed for directory") 1
    else if a.has 'f' || a.has 'i' then
      match old with
      | some (_, .directory _) =>
        complain ("ln: " ++ shown target ++ ": cannot overwrite directory") 1
      | some (m, f) =>
        if !isSymbolic && l == m then
          complain ("ln: " ++ quoted p ++ " and " ++ quoted target ++ " are the same file") 1
        else if a.has 'i' && !(← ask ("ln: replace " ++ quoted target ++ "? ")) then atLeast 1
        else if !isSymbolic && isSameEntry l m e f then pure ()
        else
          match ← change fun d => d.remove (unoctets target) with
          | none => make e
          | some why => complain ("ln: cannot remove " ++ quoted target ++ ": " ++ why.reason) 1
      | none => make e
    else if !isSymbolic && !e.attributes.own &&
        !(e.attributes.allows .read && e.attributes.allows .write) then
      refused (if old.isSome then .present else .notPermitted)
    else make e

/-- Makes links, or further names for files. -/
def linkFiles : Tool := fun args =>
  let names := [("symbolic", 's'), ("force", 'f'), ("no-dereference", 'n'), ("verbose", 'v'),
    ("no-target-directory", 'T'), ("target-directory", 't')]
  withArguments "ln" "sfnvTriLP" "t" 1 (spellOut names args) fun a => do
    match a.value? 't', a.others with
    | none, [p] => linkOne a p ("./" ++ lastPart p)
    | _, _ => transfer "ln" (linkOne a) a

/-- Makes one further name for a file. -/
def linkFile : Tool := fun args =>
  withArguments "link" "" "" 1 args fun a => do
    match a.others with
    | [] => misuse "link" "missing operand" 1
    | [p] => misuse "link" ("missing operand after " ++ cited p) 1
    | _ :: _ :: extra :: _ => misuse "link" ("extra operand " ++ cited extra) 1
    | [p, target] =>
      let refused (e : DiskError) : Doing Unit :=
        complain ("link: cannot create link " ++ quoted target ++ " to " ++ quoted p ++ ": " ++
          e.reason) 1
      match ← lstat p with
      | .error e => refused e
      | .ok (_, .directory _) => refused .notPermitted
      | .ok (_, e) =>
        match ← change fun d => d.create (unoctets target) e with
        | none => pure ()
        | some e => refused e

/-- Removes one name of a file. -/
def unlinkFile : Tool := fun args =>
  withArguments "unlink" "" "" 1 args fun a => do
    match a.others with
    | [] => misuse "unlink" "missing operand" 1
    | _ :: extra :: _ => misuse "unlink" ("extra operand " ++ cited extra) 1
    | [p] =>
      match ← change fun d => d.remove (unoctets p) with
      | none => pure ()
      | some e => complain ("unlink: cannot unlink " ++ quoted p ++ ": " ++ e.reason) 1

/-- Copies files and says who may do what with them. -/
def install : Tool := fun args =>
  let names := [("mode", 'm'), ("directory", 'd'), ("verbose", 'v'), ("target-directory", 't'),
    ("no-target-directory", 'T')]
  withArguments "install" "dDvcpTCs" "mtog" 1 (spellOut names args) fun a => do
    let text := (a.value? 'm').getD "755"
    match changedMode? text 0 false 0 with
    | none => complain ("install: invalid mode " ++ cited text) 1
    | some mode =>
      if a.has 'd' then
        if a.others.isEmpty then misuse "install" "missing file operand" 1
        for p in a.others do
          let mut going := true
          for q in pathsTo p do
            if going && !(← isDirectory q) then
              match ← change fun d =>
                d.create (unoctets q) (.directory { d.fresh 0o777 with mode := 0o755 }) with
              | none => if a.has 'v' then say ("install: creating directory " ++ quoted q ++ "\n")
              | some e =>
                complain ("install: cannot create directory " ++ cited q ++ ": " ++ e.reason) 1
                going := false
          if going then setAttributesAt p fun b => { b with mode }
      else
        let style : CopyStyle := { name := "install", tell := a.has 'v', force := true }
        transfer "install" (fun p target => do
          if a.has 'D' then
            modify fun w =>
              { w with disk := (w.disk.createDirAll (unoctets (parentPart target))).1 }
          let before := (← get).printed.length
          style.copyOne p target
          if (← get).printed.length == before then
            setAttributesAt target fun b => { b with mode }) a

/-! ### Removing -/

/-- The order in which what is inside comes before what is outside. -/
def isInsideFirst : Location → Location → Bool
  | [], m => m.isEmpty
  | _ :: _, [] => true
  | a :: l, b :: m => if a == b then isInsideFirst l m else decide (a < b)

/-- Removes a directory with all that is below it. What cannot be removed stays, and so does what is
above it. -/
def removeTree (tell : Bool) (p : String) (l : Location) : Doing Unit := do
  let d := (← get).disk
  let grants (r : Right) (k : Location) : Bool :=
    ((d.get? (l ++ k)).map fun e => e.attributes.allows r).getD true
  let above (k : Location) : List Location := (List.range k.length).map fun n => k.take n
  for (k, e) in (([], .directory {}) :: d.below l).mergeSort fun a b => isInsideFirst a.1 b.1 do
    let q := if k.isEmpty then p else within p ("/".intercalate (k.map octets))
    let disk := (← get).disk
    let isFull := e.isDirectory && !(disk.below (l ++ k)).isEmpty
    -- What is in a directory that cannot be read is not found.
    if (above k).any fun k => !grants .read k then pure ()
    else if isFull && grants .read k then pure ()
    else if isFull || !disk.mayChange (l ++ k) || (above k).any fun k => !grants .run k then
      complain ("rm: cannot remove " ++ quoted q ++ ": Permission denied") 1
    else
      modify fun w => { w with disk := w.disk.erase (l ++ k) }
      if tell then
        say ("removed " ++ (if e.isDirectory then "directory " else "") ++ quoted q ++ "\n")

/-- Removes what stands at a location after questions, and before it what is inside. `fuel` bounds
how deep that is. -/
def removeAsking (fuel : Nat) (tell : Bool) (p : String) (l : Location) (e : Entry) : Doing Unit :=
  match fuel with
  | 0 => pure ()
  | fuel + 1 => do
    let guard := if e.isLink || e.attributes.allows .write then "" else "write-protected "
    let names := ((← get).disk.names l).mergeSort fun a b => decide (a ≤ b)
    if e.isDirectory && !names.isEmpty then
      if !(← ask ("rm: descend into " ++ guard ++ "directory " ++ quoted p ++ "? ")) then return
      for name in names do
        match (← get).disk.get? (l ++ [name]) with
        | some inner => removeAsking fuel tell (within p (octets name)) (l ++ [name]) inner
        | none => pure ()
    if ← ask ("rm: remove " ++ guard ++ kindWords e ++ " " ++ quoted p ++ "? ") then
      let d := (← get).disk
      if e.isDirectory && !(d.names l).isEmpty then
        complain ("rm: cannot remove " ++ quoted p ++ ": Directory not empty") 1
      else if !d.mayChange l then
        complain ("rm: cannot remove " ++ quoted p ++ ": Permission denied") 1
      else
        modify fun w => { w with disk := w.disk.erase l }
        if tell then
          say ("removed " ++ (if e.isDirectory then "directory " else "") ++ quoted p ++ "\n")

/-- Removes files, and directories if asked to. -/
def removeFiles : Tool := fun args =>
  let names :=
    [("recursive", 'r'), ("force", 'f'), ("dir", 'd'), ("verbose", 'v'), ("interactive", 'i')]
  withArguments "rm" "rRfdviI" "" 1 (spellOut names args) fun a => do
    let deep := a.has 'r' || a.has 'R'
    let last := (a.flags.filter fun c => c == 'f' || c == 'i' || c == 'I').getLast?
    let force := last == some 'f'
    let asks := last == some 'i'
    if a.others.isEmpty && !force then misuse "rm" "missing operand" 1
    if last == some 'I' && (deep || 3 < a.others.length) then
      let n := a.others.length
      let question :=
        "rm: remove " ++ toString n ++ (if n == 1 then " argument" else " arguments") ++
        (if deep then " recursively? " else "? ")
      if !(← ask question) then return
    for p in a.others do
      let refused (reason : String) : Doing Unit :=
        complain ("rm: cannot remove " ++ quoted p ++ ": " ++ reason) 1
      let d := (← get).disk
      let remove (l : Location) (kind : String) : Doing Unit := do
        if asks then removeAsking 1000 (a.has 'v') p l ((d.get? l).getD (.directory {}))
        else if !d.mayChange l then refused "Permission denied"
        else
          modify fun w => { w with disk := w.disk.erase l }
          if a.has 'v' then say ("removed " ++ kind ++ quoted p ++ "\n")
      match ← lstat p with
      | .error .notFound => if !force then refused "No such file or directory"
      | .error .notDirectory => if !force then refused "Not a directory"
      | .error e => refused e.reason
      | .ok (l, .directory _) =>
        let isLink := match ← lstat (withoutSlashes p) with
          | .ok (_, .link _) => true
          | _ => false
        if deep && l.isEmpty then
          complain ("rm: it is dangerous to operate recursively on " ++
            (if p == "/" then "'/'" else quoted p ++ " (same as '/')") ++
            "\nrm: use --no-preserve-root to override this failsafe") 1
        else if deep && (lastPart p == "." || lastPart p == "..") then
          complain ("rm: refusing to remove '.' or '..' directory: skipping " ++ quoted p) 1
        else if deep && isLink then refused "Not a directory"
        else if deep then
          let p := if Disk.endsInSlash p then withoutSlashes p else p
          if asks then remove l "" else removeTree (a.has 'v') p l
        else if a.has 'd' then
          if (d.below l).isEmpty then remove l "directory " else refused "Directory not empty"
        else refused "Is a directory"
      | .ok (l, _) => remove l ""

/-- Removes empty directories. -/
def removeDirectories : Tool := fun args =>
  let names := [("parents", 'p'), ("ignore-fail-on-non-empty", 'i'), ("verbose", 'v')]
  withArguments "rmdir" "pvi" "" 1 (spellOut names args) fun a => do
    if a.others.isEmpty then misuse "rmdir" "missing operand" 1
    for p in a.others do
      let mut going := true
      for q in (if a.has 'p' then (pathsTo p).reverse else [p]) do
        if going then
          if a.has 'v' then say ("rmdir: removing directory, " ++ quoted q ++ "\n")
          let refused (reason : String) : Doing Unit :=
            complain ("rmdir: failed to remove " ++
              (if q == withoutSlashes p || q == p then "" else "directory ") ++
              quoted q ++ ": " ++ reason) 1
          let d := (← get).disk
          going := false
          match ← lstat q with
          | .error e => refused e.reason
          | .ok (l, .directory _) =>
            if lastPart q == "." then refused "Invalid argument"
            else if !d.mayChange l then refused "Permission denied"
            else if !(d.below l).isEmpty then
              if !a.has 'i' then refused "Directory not empty"
            else
              modify fun w => { w with disk := w.disk.erase l }
              going := true
          | .ok _ => refused "Not a directory"

/-! ### Making -/

/-- Makes directories. -/
def makeDirectories : Tool := fun args =>
  withArguments "mkdir" "pv" "m" 1
    (spellOut [("parents", 'p'), ("mode", 'm'), ("verbose", 'v')] args)
    fun a => do
    if a.others.isEmpty then misuse "mkdir" "missing operand" 1
    else if ((a.value? 'm').getD "0").splitOn "," |>.any fun s =>
        (changedMode? s 0 true 0).isNone then
      complain ("mkdir: invalid mode " ++ cited ((a.value? 'm').getD "")) 1
    else
    let make (last : Bool) (p : String) : Doing Bool := do
      let mode (d : Disk) : Attributes :=
        match (a.value? 'm').filter fun _ => last with
        | some text =>
          { d.fresh 0o777 with mode := (changedMode? text d.mask true 0o777).getD 0o777 }
        | none => d.fresh 0o777
      match ← change fun d => d.create (unoctets p) (.directory (mode d)) with
      | none =>
        if a.has 'v' then say ("mkdir: created directory " ++ cited p ++ "\n")
        return true
      | some e =>
        complain ("mkdir: cannot create directory " ++ cited p ++ ": " ++ e.reason) 1
        return false
    for p in a.others do
      if a.has 'p' && !p.isEmpty then
        let mut going := true
        for q in pathsTo p do
          if going then
            match ← stat q with
            | .ok (_, .directory _) => pure ()
            | .ok _ =>
              let reason := if withoutSlashes p == q then "File exists" else "Not a directory"
              complain ("mkdir: cannot create directory " ++ cited q ++ ": " ++ reason) 1
              going := false
            | .error _ => going ← make (withoutSlashes p == q) q
      else discard <| make true p

/-- Makes files that are not there, and says when files were changed. -/
def touch : Tool := fun args =>
  let names := [("no-create", 'c'), ("date", 'd'), ("reference", 'r'), ("no-dereference", 'h')]
  withArguments "touch" "acmfh" "dtr" 1 (spellOut names args) fun a => do
    let now := (← get).disk.now
    let moment : Except String (Option Int) ← match a.value? 'r', a.value? 't', a.value? 'd' with
      | some p, _, _ => do
        match ← stat p with
        | .ok (_, e) => pure (.ok (some e.attributes.modified))
        | .error e => pure (.error ("failed to get attributes of " ++ quoted p ++ ": " ++ e.reason))
      | none, some t, _ => pure (match stampMoment? (momentOf now) t with
        | some n => .ok (some (timeOf n))
        | none => .error ("invalid date format " ++ cited t))
      | none, none, some t => pure (match moment? (momentOf now) t with
        | some n => .ok (some (timeOf n))
        | none => .error ("invalid date format " ++ cited t))
      | none, none, none => pure (.ok none)
    match moment with
    | .error why => complain ("touch: " ++ why) 1
    | .ok moment =>
      if a.others.isEmpty then misuse "touch" "missing file operand" 1
      for p in a.others do
        let stamp : Doing Unit := setAttributesAt p fun b => { b with modified := moment.getD now }
        match ← stat p with
        | .ok (_, e) =>
          if e.attributes.own || moment.isNone && e.attributes.allows .write then stamp
          else if moment.isSome then
            complain ("touch: setting times of " ++ quoted p ++ ": Operation not permitted") 1
          else complain ("touch: cannot touch " ++ quoted p ++ ": Permission denied") 1
        | .error e =>
          if a.has 'c' && e = .notFound then pure ()
          else if p.endsWith "/" then
            complain ("touch: setting times of " ++ quoted p ++ ": " ++ e.reason) 1
          else
            match ← writeFile p .empty with
            | none => stamp
            | some e => complain ("touch: cannot touch " ++ quoted p ++ ": " ++ e.reason) 1

/-- Changes the size of files. -/
def truncateFiles : Tool := fun args =>
  let names := [("size", 's'), ("no-create", 'c'), ("reference", 'r')]
  withArguments "truncate" "co" "sr" 1 (spellOut names args) fun a => do
    let reference : Option (Except String Nat) ← match a.value? 'r' with
      | some p => do
        match ← readFile p with
        | .ok d => pure (some (.ok d.size))
        | .error e =>
          pure (some (.error ("truncate: cannot stat " ++ quoted p ++ ": " ++ e.reason)))
      | none => pure none
    let size := (a.value? 's').getD "+0"
    let (sign, digits) := match size.toList with
      | c :: cs =>
        if ['+', '-', '<', '>', '/', '%'].contains c then (c, String.ofList cs) else (' ', size)
      | [] => (' ', "")
    match (a.value? 's').isNone, reference, amount? digits with
    | true, none, _ => misuse "truncate" "you must specify either '--size' or '--reference'" 1
    | _, some (.error why), _ => complain why 1
    | _, _, none => complain ("truncate: Invalid number: " ++ cited size) 1
    | _, reference, some n =>
      let base : Option Nat := match reference with
        | some (.ok n) => some n
        | _ => none
      if a.others.isEmpty then misuse "truncate" "missing file operand" 1
      for p in a.others do
        let old ← readFile p
        if old.toOption.isNone && a.has 'c' then pure ()
        else
          let b := old.toOption.getD .empty
          let size := base.getD b.size
          let wanted := match sign with
            | '+' => size + n
            | '-' => size - n
            | '<' => min size n
            | '>' => max size n
            | '/' => if n = 0 then size else size / n * n
            | '%' => if n = 0 then size else (size + n - 1) / n * n
            | _ => n
          match ← writeFile p (b.extract 0 wanted ++ Data.zeros (wanted - b.size)) with
          | none => pure ()
          | some e =>
            complain ("truncate: cannot open " ++ quoted p ++ " for writing: " ++ e.reason) 1

/-- Makes pipes that have names. -/
def makePipes : Tool := fun args =>
  withArguments "mkfifo" "" "m" 1 (spellOut [("mode", 'm')] args) fun a => do
    if a.others.isEmpty then misuse "mkfifo" "missing operand" 1
    else if (changedMode? ((a.value? 'm').getD "0") 0 false 0).isNone then
      complain "mkfifo: invalid mode" 1
    else
      for p in a.others do
        let d := (← get).disk
        let attributes := match a.value? 'm' with
          | some text =>
            { d.fresh 0o666 with mode := (changedMode? text d.mask false 0o666).getD 0o666 }
          | none => d.fresh 0o666
        match ← change fun d =>
          { d with nextId := d.nextId + 1 }.create (unoctets p) (.pipe d.nextId attributes) with
        | none => pure ()
        | some e => complain ("mkfifo: cannot create fifo " ++ quoted p ++ ": " ++ e.reason) 1

end AstCompare.Shell.Tool
