import AstCompare.Shell.Tool.Listing
import AstCompare.Shell.Tool.Parts

/-!
# Differences between files

Two rows of lines are compared by a longest common part. What is left on both sides comes in hunks:
so many lines of the first in place of so many of the second. A hunk that only takes away or only
adds may stand at several places if lines repeat; it stands at the last of them.

## Main definitions

* `Difference.Hunk`, `Difference.hunks`: what differs.
* `Difference.plain`, `Difference.unified`: the two ways to print it.
* `compareLineFiles`: the program.
-/

namespace AstCompare.Shell.Tool

namespace Difference

/-- Lines of the first row that stand in place of lines of the second: where they begin, and how
many they are. -/
structure Hunk where
  left : Nat
  leftSize : Nat
  right : Nat
  rightSize : Nat
  deriving DecidableEq, Repr

/-- The lengths of the longest common parts of what follows a place in the first row and all places
in the second, from those for the next place. -/
def lengthsBefore (a : String) (bs : List String) (next : List Nat) : List Nat :=
  match bs, next with
  | b :: bs, n :: next =>
    let rest := lengthsBefore a bs next
    (if a == b then next.headD 0 + 1 else max n (rest.headD 0)) :: rest
  | _, next => next

/-- The table of the lengths of longest common parts. -/
def lengths (bs : List String) : List String → List (List Nat)
  | [] => [List.replicate (bs.length + 1) 0]
  | a :: as =>
    let table := lengths bs as
    lengthsBefore a bs (table.headD []) :: table

/-- The steps along a longest common part: a line of both, of the first, or of the second. `fuel`
bounds their number. -/
def steps (fuel : Nat) (as bs : List String) (table : List (List Nat)) : List Ordering :=
  match fuel with
  | 0 => []
  | fuel + 1 =>
    match as, bs with
    | [], [] => []
    | _ :: as, [] => .lt :: steps fuel as [] table.tail
    | [], _ :: bs => .gt :: steps fuel [] bs (table.map List.tail)
    | a :: as, b :: bs =>
      if a == b then .eq :: steps fuel as bs (table.tail.map List.tail)
      else
        let below := (table.tail.headD []).headD 0
        let beside := ((table.headD []).tail).headD 0
        if beside ≤ below then .lt :: steps fuel as (b :: bs) table.tail
        else .gt :: steps fuel (a :: as) bs (table.map List.tail)

/-- The hunks of a row of steps, from a place on in both rows. -/
def hunksOf (i j : Nat) : List Ordering → List Hunk
  | [] => []
  | .eq :: rest => hunksOf (i + 1) (j + 1) rest
  | .lt :: rest => add ⟨i, 1, j, 0⟩ (hunksOf (i + 1) j rest)
  | .gt :: rest => add ⟨i, 0, j, 1⟩ (hunksOf i (j + 1) rest)
where
  /-- Puts a hunk in front, or joins it with the first if they touch. -/
  add (h : Hunk) : List Hunk → List Hunk
    | k :: rest =>
      if h.left + h.leftSize == k.left && h.right + h.rightSize == k.right then
        ⟨h.left, h.leftSize + k.leftSize, h.right, h.rightSize + k.rightSize⟩ :: rest
      else h :: k :: rest
    | [] => [h]

/-- Moves a hunk that only takes away or only adds towards the end, as far as lines repeat. It stops
before `stop` in the first row. `fuel` bounds how far. -/
def slide (as bs : Array String) (stop : Nat) (fuel : Nat) (h : Hunk) : Hunk :=
  match fuel with
  | 0 => h
  | fuel + 1 =>
    let moved : Hunk := { h with left := h.left + 1, right := h.right + 1 }
    if h.rightSize == 0 && h.left + h.leftSize < stop &&
        as[h.left]? == as[h.left + h.leftSize]? then
      slide as bs stop fuel moved
    else if h.leftSize == 0 && h.left < stop && bs[h.right]? == bs[h.right + h.rightSize]? then
      slide as bs stop fuel moved
    else h

/-- Moves all hunks, the last one first. -/
def slideAll (as bs : Array String) : List Hunk → List Hunk
  | [] => []
  | h :: rest =>
    let rest := slideAll as bs rest
    let stop := (rest.head?.map Hunk.left).getD as.size
    hunksOf.add (slide as bs stop (as.size + bs.size) h) rest

/-- The number of lines that two rows have in common from the front on. -/
def sharedFront (as bs : List String) : Nat :=
  ((as.zip bs).takeWhile fun (a, b) => a == b).length

/-- What differs between two rows of lines. -/
def hunks (as bs : List String) : List Hunk :=
  let front := sharedFront as bs
  let as' := as.drop front
  let bs' := bs.drop front
  let back := sharedFront as'.reverse bs'.reverse
  let as' := as'.take (as'.length - back)
  let bs' := bs'.take (bs'.length - back)
  slideAll as.toArray bs.toArray
    (hunksOf front front (steps (as'.length + bs'.length) as' bs' (lengths bs' as')))

/-! ### Printing -/

/-- The mark after a last line that has no end. -/
def unended : String := "\\ No newline at end of file"

/-- Lines with a sign in front; the last of all may be marked. -/
def marked (sign : String) (ls : Array String) (ended : Bool) (start size : Nat) : List String :=
  (List.range size).flatMap fun k =>
    let i := start + k
    (sign ++ ls.getD i "") :: if i + 1 == ls.size && !ended then [unended] else []

/-- The place of lines: a number, or two with a comma. Where there are none it is the line
before. -/
def place (start size : Nat) : String :=
  if size ≤ 1 then toString (start + size)
  else toString (start + 1) ++ "," ++ toString (start + size)

/-- The differences one by one. -/
def plain (as bs : Array String) (endA endB : Bool) (hs : List Hunk) : List String :=
  hs.flatMap fun h =>
    let letter := if h.leftSize == 0 then "a" else if h.rightSize == 0 then "d" else "c"
    (place h.left h.leftSize ++ letter ++ place h.right h.rightSize) ::
      marked "< " as endA h.left h.leftSize ++
      (if letter == "c" then ["---"] else []) ++ marked "> " bs endB h.right h.rightSize

/-- The hunks in groups whose surroundings touch. -/
def groups (context : Nat) : List Hunk → List (List Hunk)
  | [] => []
  | h :: rest =>
    match groups context rest with
    | (k :: more) :: others =>
      if k.left ≤ h.left + h.leftSize + 2 * context then (h :: k :: more) :: others
      else [h] :: (k :: more) :: others
    | _ => [[h]]

/-- The range of lines in the heading of a group. -/
def range (start size : Nat) : String :=
  if size == 1 then toString (start + 1)
  else toString (if size == 0 then start else start + 1) ++ "," ++ toString size

/-- The differences with lines around them. -/
def unified (context : Nat) (as bs : Array String) (endA endB : Bool) (hs : List Hunk) :
    List String :=
  (groups context hs).flatMap fun g =>
    match g, g.getLast? with
    | h :: _, some k =>
      let before := min context h.left
      let after := min context (as.size - (k.left + k.leftSize))
      let start := h.left - before
      let startRight := h.right - before
      let size := k.left + k.leftSize + after - start
      let sizeRight := k.right + k.rightSize + after - startRight
      let (body, reached) := g.foldl (fun (out, i) h =>
        (out ++ marked " " as endA i (h.left - i) ++ marked "-" as endA h.left h.leftSize ++
          marked "+" bs endB h.right h.rightSize, h.left + h.leftSize)) ([], start)
      ("@@ -" ++ range start size ++ " +" ++ range startRight sizeRight ++ " @@") ::
        body ++ marked " " as endA reached after
    | _, _ => []

/-- A line as it is compared. -/
def key (flags : List Char) (l : String) : String :=
  let l := if flags.contains 'w' then String.ofList (l.toList.filter fun c => !blank c)
    else if flags.contains 'b' then
      String.ofList ((squeezed l.toList).reverse.dropWhile blank).reverse
    else l
  if flags.contains 'i' then l.map Char.toLower else l
where
  /-- A blank. -/
  blank (c : Char) : Bool := c == ' ' || c == '\t' || c == '\r'
  /-- The text with one blank for several. -/
  squeezed : List Char → List Char
    | a :: b :: cs => if blank a && blank b then squeezed (b :: cs)
      else (if blank a then ' ' else a) :: squeezed (b :: cs)
    | [a] => [if blank a then ' ' else a]
    | [] => []

end Difference

/-- Prints how two files differ. -/
def compareLineFiles : Tool := fun args => do
  let names := [("brief", 'q'), ("unified", 'u'), ("ignore-case", 'i'), ("ignore-all-space", 'w'),
    ("ignore-space-change", 'b'), ("report-identical-files", 's'), ("text", 'a'),
    ("recursive", 'r'), ("new-file", 'N'), ("label", 'L')]
  let a := readArguments "quiwbsarNB".toList "UL".toList true {} none (spellOut names args)
  let help := "\ndiff: Try 'diff --help' for more information."
  match a.unknown, a.others with
  | some c, _ => complain ("diff: invalid option -- '" ++ String.singleton c ++ "'" ++ help) 2
  | none, [] => complain ("diff: missing operand after 'diff'" ++ help) 2
  | none, [p] => complain ("diff: missing operand after '" ++ p ++ "'" ++ help) 2
  | none, p :: q :: _ =>
    let p' := if (← isDirectory p) && !(← isDirectory q) then within p (lastPart q) else p
    let q' := if (← isDirectory q) && !(← isDirectory p) then within q (lastPart p) else q
    let x ← sourceOr ("diff: " ++ p') p' 2
    let y ← sourceOr ("diff: " ++ q') q' 2
    match x, y with
    | some x, some y =>
      if x == y then
        if a.has 's' then say ("Files " ++ p' ++ " and " ++ q' ++ " are identical\n")
      else
        let s := x.text
        let t := y.text
        if (s.contains '\x00' || t.contains '\x00') && !a.has 'a' then
          say ("Binary files " ++ p' ++ " and " ++ q' ++ " differ\n")
          atLeast 2
        else
          let as := linesOf s
          let bs := linesOf t
          let endA := s.isEmpty || s.endsWith "\n"
          let endB := t.isEmpty || t.endsWith "\n"
          -- A last line without an end differs from one with an end.
          let keyed (ls : List String) (ended : Bool) : List String :=
            let ks := ls.map (Difference.key a.flags)
            if ended || a.has 'w' || a.has 'b' then ks
            else ks.dropLast ++ (ks.getLast?.map (· ++ "\x00")).toList
          let hs := Difference.hunks (keyed as endA) (keyed bs endB)
          if !hs.isEmpty then
            atLeast 1
            let context := ((a.value? 'U').bind number?)
            if a.has 'q' then say ("Files " ++ p' ++ " and " ++ q' ++ " differ\n")
            else if a.has 'u' || context.isSome then
              let labels := (a.values.filter fun v => v.1 == 'L').map Prod.snd
              let v ← view
              let title (i : Nat) (p : String) : String :=
                let modified := ((v.stat p).toOption.map fun x => x.2.attributes.modified).getD 0
                (labels[i]?).getD
                  (p ++ "\t" ++
                    momentText (momentOf modified) "%Y-%m-%d %H:%M:%S.000000000 +0000".toList)
              sayLines (("--- " ++ title 0 p') :: ("+++ " ++ title 1 q') ::
                Difference.unified (context.getD 3) as.toArray bs.toArray endA endB hs)
            else sayLines (Difference.plain as.toArray bs.toArray endA endB hs)
    | _, _ => pure ()

end AstCompare.Shell.Tool
