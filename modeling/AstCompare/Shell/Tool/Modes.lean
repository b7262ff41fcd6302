import AstCompare.Shell.Tool.Paths

/-!
# Modes

A mode says who may do what with an entry: three bits each for the owner, the group and everybody
else, and three more before them. It is changed by numbers in base eight or by clauses such as
`u+x`.

## Main definitions

* `modeLetters`: an entry and its mode as letters.
* `changedMode?`: what a mode argument makes of a mode.
* `changeMode`: the program.
-/

namespace AstCompare.Shell.Tool

/-- A number in base eight. -/
def octal? (s : String) : Option Nat :=
  if !s.isEmpty && s.toList.all fun c => '0' ≤ c && c ≤ '7' then
    some (s.toList.foldl (fun n c => n * 8 + (c.toNat - 48)) 0)
  else none

/-- The digits of a number in base eight. -/
def octalDigits (n : Nat) : String :=
  String.ofList (Nat.toDigits 8 n)

/-- The letters for three bits. `special` is the letter that stands for running if a further bit is
set. -/
def rightLetters (bits : Nat) (special : Option Char) : String :=
  let run := bits % 2 == 1
  let last := match special with
    | some c => if run then c else c.toUpper
    | none => if run then 'x' else '-'
  String.ofList
    [if bits / 4 % 2 == 1 then 'r' else '-', if bits / 2 % 2 == 1 then 'w' else '-', last]

/-- The letters for a mode. -/
def rightsOf (mode : Nat) : String :=
  let special (bit : Nat) (c : Char) : Option Char := if mode / bit % 2 == 1 then some c else none
  rightLetters (mode / 64 % 8) (special 0o4000 's') ++
    rightLetters (mode / 8 % 8) (special 0o2000 's') ++
    rightLetters (mode % 8) (special 0o1000 't')

/-- The letter for the kind of an entry. -/
def kindLetter : Entry → String
  | .directory _ => "d"
  | .file _ _ _ => "-"
  | .link _ => "l"
  | .device _ => "c"
  | .pipe _ _ => "p"

/-- The letters for an entry and its mode. -/
def modeLetters (e : Entry) : String :=
  kindLetter e ++ rightsOf e.attributes.mode

/-- Changes bits of a mode: those in `whose` that are in `bits`. -/
def changeBits (sign : Char) (whose bits mode : Nat) : Nat :=
  match sign with
  | '+' => mode ||| (whose &&& bits)
  | '-' => mode &&& (0o7777 ^^^ (whose &&& bits))
  | _ => (mode &&& (0o7777 ^^^ whose)) ||| (whose &&& bits)

/-- The bits that letters name. A right that is already granted to somebody, and running a
directory, have a letter of their own; one letter may also stand for the rights of an owner or a
group. -/
def letterBits (isDirectory : Bool) (mode : Nat) (letters : List Char) : Option Nat :=
  letters.foldlM (fun bits c =>
    match c with
    | 'r' => some (bits ||| 0o444)
    | 'w' => some (bits ||| 0o222)
    | 'x' => some (bits ||| 0o111)
    | 'X' => some (if isDirectory || mode &&& 0o111 != 0 then bits ||| 0o111 else bits)
    | 's' => some (bits ||| 0o6000)
    | 't' => some (bits ||| 0o1000)
    | 'u' => some (bits ||| mode / 64 % 8 * 0o111)
    | 'g' => some (bits ||| mode / 8 % 8 * 0o111)
    | 'o' => some (bits ||| mode % 8 * 0o111)
    | _ => none) 0

/-- Carries out the changes of one clause, after whose rights they concern. `fuel` bounds their
number. -/
def changeBy (isDirectory : Bool) (whose : Nat) (fuel : Nat) (cs : List Char) (mode : Nat) :
    Option Nat :=
  match fuel, cs with
  | fuel + 1, sign :: cs =>
    if !(['+', '-', '='].contains sign) then none
    else
      let letters := cs.takeWhile fun c => !(['+', '-', '='].contains c)
      (letterBits isDirectory mode letters).bind fun bits =>
        let mode := changeBits sign whose bits mode
        match cs.drop letters.length with
        | [] => some mode
        | rest => changeBy isDirectory whose fuel rest mode
  | _, _ => none

/-- The bits that belong to somebody. -/
def bitsOf : Char → Nat
  | 'u' => 0o4700
  | 'g' => 0o2070
  | 'o' => 0o1007
  | _ => 0o7777

/-- What a mode argument makes of a mode, if it is one. If it does not say whose rights it means,
those that new files do not get are left aside. -/
def changedMode? (text : String) (mask : Nat) (isDirectory : Bool) (mode : Nat) : Option Nat :=
  match octal? text with
  | some n => if 0o7777 < n then none else some n
  | none =>
    (text.splitOn ",").foldlM (fun mode clause =>
      let cs := clause.toList
      let who := cs.takeWhile fun c => ['u', 'g', 'o', 'a'].contains c
      let whose := if who.isEmpty then 0o7777 &&& (0o7777 ^^^ mask)
        else who.foldl (fun bits c => bits ||| bitsOf c) 0
      changeBy isDirectory whose cs.length (cs.drop who.length) mode) mode

/-- The attributes with a mode. -/
def withMode (e : Entry) (mode : Nat) : Attributes :=
  { e.attributes with mode }

/-- Puts attributes on the entry at a location. -/
def setAttributes (d : Disk) (l : Location) (e : Entry) (a : Attributes) : Disk :=
  match e with
  | .file id c _ => d.changeFile id c a
  | e => d.set l (e.withAttributes a)

/-- The kind of an entry in words. -/
def kindWords : Entry → String
  | .file _ c _ => if c.size = 0 then "regular empty file" else "regular file"
  | .directory _ => "directory"
  | .link _ => "symbolic link"
  | .device _ => "character special file"
  | .pipe _ _ => "fifo"

/-- Changes the mode of an entry, which only its owner may. -/
def changeModeOf (text p : String) (l : Location) (e : Entry) : Doing Unit := do
  let mask := (← get).disk.mask
  let old := e.attributes.mode
  match changedMode? text mask e.isDirectory old with
  | none => pure ()
  | some new =>
    if !e.attributes.own then
      complain ("chmod: changing permissions of " ++ quoted p ++ ": Operation not permitted") 1
    else
      modify fun w => { w with disk := setAttributes w.disk l e (withMode e new) }
      -- What was meant without a mask may be more than what was done.
      let meant := if text.startsWith "-" then changedMode? text 0 e.isDirectory old else none
      match meant with
      | some m =>
        if m != new && new &&& (0o7777 ^^^ m) != 0 then
          complain ("chmod: " ++ shown p ++ ": new permissions are " ++ rightsOf new ++ ", not " ++
            rightsOf m) 1
      | none => pure ()

/-- Changes the modes of files. -/
def changeMode : Tool := fun args => do
  -- A mode may start with a hyphen, and it may be that of another file.
  let options :=
    ["-R", "-v", "-f", "-c", "--recursive", "--verbose", "--silent", "--quiet", "--changes", "--"]
  let (given, rest) := args.partition fun s => options.contains s
  let (other, rest) := match rest with
    | s :: more =>
      match s.dropPrefix? "--reference=" with
      | some p => (some p.toString, more)
      | none => (none, rest)
    | [] => (none, [])
  let rest ← match other with
    | none => pure rest
    | some p =>
      match ← stat p with
      | .ok (_, e) => pure (octalDigits e.attributes.mode :: rest)
      | .error e =>
        complain ("chmod: failed to get attributes of " ++ quoted p ++ ": " ++ e.reason) 1
        return
  let recursive := given.contains "-R" || given.contains "--recursive"
  let quiet := given.contains "-f" || given.contains "--silent" || given.contains "--quiet"
  match rest with
  | [] => misuse "chmod" "missing operand" 1
  | [mode] => misuse "chmod" ("missing operand after " ++ cited mode) 1
  | mode :: files =>
    if (changedMode? mode 0 false 0).isNone then misuse "chmod" ("invalid mode: " ++ cited mode) 1
    else
      for p in files do
        match ← stat p with
        | .error e =>
          match e, (← lstat p).toOption with
          | .notFound, some (_, .link _) =>
            if quiet then atLeast 1
            else complain ("chmod: cannot operate on dangling symlink " ++ quoted p) 1
          | e, _ =>
            if quiet then atLeast 1
            else complain ("chmod: cannot access " ++ quoted p ++ ": " ++ e.reason) 1
        | .ok (l, e) =>
          changeModeOf mode p l e
          if recursive && e.isDirectory then
            for (k, inner) in ((← get).disk.below l).reverse do
              if !inner.isLink then
                changeModeOf mode (within p ("/".intercalate (k.map octets))) (l ++ k) inner

end AstCompare.Shell.Tool
