import Std.Data.HashSet
import AstCompare.Shell.Pattern

/-!
# Regular expressions

The programs that search and edit text describe what they look for by regular expressions. There are
two ways to write them: in the basic one, groups, bars and counts are marked by backslashes, in the
extended one they are not.

A match is the longest one among those that begin furthest to the left. All places that an
expression can reach are computed, the furthest first and each position once, so the work stays
bounded.

## Main definitions

* `Regex`: a regular expression.
* `Regex.parse`: the expression that a text describes.
* `Regex.search`: the first match in a text.
-/

namespace AstCompare.Shell

/-- A regular expression. -/
inductive Regex where
  | empty
  | exactly (c : Char)
  | any
  | oneOf (negated : Bool) (members : List Pattern.Member)
  /-- The beginning and the end of the text. -/
  | start
  | finish
  /-- The edge of a word: its beginning, its end, either of them, or neither. -/
  | wordStart
  | wordEnd
  | wordEdge
  | wordInside
  /-- No word goes on to the left, or to the right. -/
  | noWordBefore
  | noWordAfter
  | group (number : Nat) (body : Regex)
  /-- What a group has found before. -/
  | again (number : Nat)
  | both (first second : Regex)
  | either (first second : Regex)
  | times (least : Nat) (most : Option Nat) (body : Regex)

namespace Regex

/-! ### Finding -/

/-- A place in a text, the character before it, what follows, and what the groups have found: for
each number where its text begins and how long it is. -/
structure Place where
  position : Nat
  before : Option Char
  rest : List Char
  groups : List (Nat × List Char × Nat) := []

/-- The text that a group has found. -/
def Place.found? (p : Place) (number : Nat) : Option (List Char) :=
  (p.groups.lookup number).map fun (cs, n) => cs.take n

/-- The character belongs to a word. -/
def isWordChar (c : Char) : Bool :=
  c.isAlphanum || c == '_'

/-- There is a character that belongs to a word. -/
def isWord (c : Option Char) : Bool :=
  (c.map isWordChar).getD false

/-- The place after one character. -/
def Place.next? (p : Place) : Option (Char × Place) :=
  match p.rest with
  | [] => none
  | c :: rest => some (c, { p with position := p.position + 1, before := some c, rest })

/-- The place after a text, if it comes next. -/
def Place.after? (fold : Bool) (p : Place) : List Char → Option Place
  | [] => some p
  | c :: cs =>
    match p.next? with
    | none => none
    | some (d, q) => if c == d || (fold && c.toLower == d.toLower) then q.after? fold cs else none

/-- Two lists of places as one, each with the furthest place first. Of two places with one position
the one from the first list stays. -/
def merge (ps qs : List Place) : List Place :=
  match ps, qs with
  | [], qs => qs
  | ps, [] => ps
  | p :: ps, q :: qs =>
    if p.position == q.position then p :: merge ps qs
    else if q.position < p.position then p :: merge ps (q :: qs)
    else q :: merge (p :: ps) qs
termination_by ps.length + qs.length

/-- The places after one step from any of some places, the furthest place first. -/
def stepAll (step : Place → List Place) (ps : List Place) : List Place :=
  ps.foldl (fun acc p => merge acc (step p)) []

/-- The places after exactly so many steps. -/
def exactRounds (step : Place → List Place) : Nat → List Place → List Place
  | 0, ps => ps
  | n + 1, ps => exactRounds step n (stepAll step ps)

/-- The places after at most so many steps. More steps are preferred. -/
def boundedRounds (step : Place → List Place) : Nat → List Place → List Place
  | 0, ps => ps
  | n + 1, ps =>
    if ps.isEmpty then [] else merge (boundedRounds step n (stepAll step ps)) ps

/-- The places after any number of steps from the places that wait. `seen` tells the positions that
were reached, and `fuel` bounds the work. -/
def closure (step : Place → List Place) (fuel : Nat) (seen : Std.HashSet Nat)
    (waiting reached : List Place) : List Place :=
  match fuel, waiting with
  | 0, _ => reached
  | _, [] => reached
  | fuel + 1, p :: waiting =>
    if seen.contains p.position then closure step fuel seen waiting reached
    else closure step fuel (seen.insert p.position) (step p ++ waiting) (p :: reached)

/-- The places after any number of steps, the furthest place first. Every position is left once, and
for at most as many others as there are. -/
def unboundedRounds (step : Place → List Place) (ps : List Place) : List Place :=
  let n := (ps.map fun p => p.rest.length).foldl max 0 + 1
  (closure step ((n + 1) * (n + 1)) ∅ ps []).mergeSort fun p q => decide (q.position ≤ p.position)

/-- The places after `least` steps at least and `most` steps at most, the furthest place first. -/
def rounds (step : Place → List Place) (least : Nat) (most : Option Nat) (p : Place) : List Place :=
  let ps := exactRounds step least [p]
  match most with
  | some n => boundedRounds step (n - least) ps
  | none => unboundedRounds step ps

/-- The places that the expression can reach, the furthest place first. With `fold` small and
capital letters are the same. -/
def reach (fold : Bool) : Regex → Place → List Place
  | empty, p => [p]
  | exactly c, p =>
    match p.next? with
    | some (d, q) => if c == d || (fold && c.toLower == d.toLower) then [q] else []
    | none => []
  | any, p => (p.next?.map Prod.snd).toList
  | oneOf negated members, p =>
    match p.next? with
    | some (d, q) =>
      let has := members.any (Pattern.Member.has d) ||
        (fold &&
          (members.any (Pattern.Member.has d.toLower) ||
            members.any (Pattern.Member.has d.toUpper)))
      if has != negated then [q] else []
    | none => []
  | start, p => if p.before.isNone then [p] else []
  | finish, p => if p.rest.isEmpty then [p] else []
  | wordStart, p => if !isWord p.before && isWord p.rest.head? then [p] else []
  | wordEnd, p => if isWord p.before && !isWord p.rest.head? then [p] else []
  | wordEdge, p => if isWord p.before != isWord p.rest.head? then [p] else []
  | wordInside, p => if isWord p.before == isWord p.rest.head? then [p] else []
  | noWordBefore, p => if isWord p.before then [] else [p]
  | noWordAfter, p => if isWord p.rest.head? then [] else [p]
  | group n body, p =>
    (reach fold body p).map fun q =>
      { q with groups := (n, p.rest, q.position - p.position) :: q.groups }
  | again n, p =>
    match p.found? n with
    | some cs => (p.after? fold cs).toList
    | none => []
  | both a b, p => stepAll (reach fold b) (reach fold a p)
  | either a b, p => merge (reach fold a p) (reach fold b p)
  | times least most body, p => rounds (reach fold body) least most p

/-- A match: what stands before it, what it is, what follows, and what the groups have found. -/
structure Match where
  front : List Char
  text : List Char
  rest : List Char
  groups : List (Nat × List Char)

/-- The longest match at a place. -/
def matchAt (r : Regex) (fold : Bool) (p : Place) : Option Place :=
  (r.reach fold p).head?

/-- The first match from a place on. `passed` holds the characters before it, the latest first. -/
def searchFrom (r : Regex) (fold : Bool) (passed : List Char) (position : Nat)
    (before : Option Char) (cs : List Char) : Option Match :=
  match r.matchAt fold ⟨position, before, cs, []⟩ with
  | some q =>
    let groups := q.groups.map fun (n, cs, length) => (n, cs.take length)
    some ⟨passed.reverse, cs.take (q.position - position), q.rest, groups⟩
  | none =>
    match cs with
    | [] => none
    | c :: cs => searchFrom r fold (c :: passed) (position + 1) (some c) cs

/-- The first match in a text that follows a character, or nothing. -/
def search (r : Regex) (fold : Bool) (before : Option Char) (cs : List Char) : Option Match :=
  searchFrom r fold [] 0 before cs

/-- The expression fits the whole text. -/
def fits (r : Regex) (fold : Bool) (cs : List Char) : Bool :=
  (r.reach fold ⟨0, none, cs, []⟩).any fun q => q.rest.isEmpty

/-! ### Reading -/

/-- What is wrong with an expression. -/
inductive Problem where
  | parenthesis
  | strayParenthesis
  | bracket
  | brace
  | braceContent
  | range
  | again
  | backslash
  | repetition
  | className
  | classPlace
  | size
  deriving DecidableEq, Repr

/-- The words for the problem with an expression. -/
def Problem.message : Problem → String
  | parenthesis => "Unmatched ( or \\("
  | strayParenthesis => "Unmatched ) or \\)"
  | bracket => "Unmatched [, [^, [:, [., or [="
  | brace => "Unmatched \\\x7b"
  | braceContent => "Invalid content of \\\x7b\\\x7d"
  | range => "Invalid range end"
  | again => "Invalid back reference"
  | backslash => "Trailing backslash"
  | repetition => "Invalid preceding regular expression"
  | className => "Invalid character class name"
  | classPlace => "character class syntax is [[:space:]], not [:space:]"
  | size => "Regular expression too big"

/-- The way in which expressions are written. -/
structure Writing where
  extended : Bool := false
  /-- Signs that make no sense where they stand count as characters. -/
  lenient : Bool := false
  /-- There is a sign for digits. -/
  hasDigits : Bool := false

/-- The members of a set up to its closing bracket, and what follows. `fuel` bounds their number. -/
def readMembers (fuel : Nat) (first : Bool) (cs : List Char) :
    Except Problem (List Pattern.Member × List Char) :=
  match fuel, cs with
  | 0, _ | _, [] => .error .bracket
  | fuel + 1, c :: rest =>
    if c = ']' ∧ !first then .ok ([], rest)
    else
      match c, rest with
      | '[', ':' :: more =>
        let name := String.ofList (more.takeWhile Char.isAlpha)
        match more.dropWhile Char.isAlpha with
        | ':' :: ']' :: left =>
          if (characterClass? name).isNone then .error .className
          else do
            let (ms, left) ← readMembers fuel false left
            return (.named name :: ms, left)
        | _ => .error .bracket
      | '[', '.' :: e :: '.' :: ']' :: left | '[', '=' :: e :: '=' :: ']' :: left => do
        let (ms, left) ← readMembers fuel false left
        return (.range e e :: ms, left)
      | c, '-' :: e :: more =>
        if e = ']' then do
          let (ms, left) ← readMembers fuel false rest
          return (.range c c :: ms, left)
        else if e < c then .error .range
        else do
          let (ms, left) ← readMembers fuel false more
          return (.range c e :: ms, left)
      | c, rest => do
        let (ms, left) ← readMembers fuel false rest
        return (.range c c :: ms, left)

/-- The set after an opening bracket. -/
def readSet (cs : List Char) : Except Problem (Regex × List Char) := do
  let (negated, cs) := match cs with
    | '^' :: rest => (true, rest)
    | cs => (false, cs)
  let (ms, rest) ← readMembers (cs.length + 1) true cs
  -- The name of a class stands between brackets of its own.
  let inner := cs.take (cs.length - rest.length - 1)
  if 1 < inner.length && inner.head? == some ':' && inner.getLast? == some ':' then
    .error .classPlace
  return (oneOf negated ms, rest)

/-- The greatest number of repetitions. -/
def maxCount : Nat := 32767

/-- A number at the beginning of a text. -/
def readCount (cs : List Char) : Option Nat × List Char :=
  let ds := cs.takeWhile Char.isDigit
  ((String.ofList ds).toNat?, cs.drop ds.length)

/-- The counts between braces, after the opening one. The closing one has a backslash in the basic
way of writing. Without sense in them the brace may stand for itself. -/
def readCounts (w : Writing) (cs : List Char) :
    Except Problem (Option (Nat × Option Nat × List Char)) :=
  let close (rest : List Char) : Option (List Char) := match w.extended, rest with
    | true, '\x7d' :: rest => some rest
    | false, '\\' :: '\x7d' :: rest => some rest
    | _, _ => none
  let senseless (rest : List Char) : Except Problem (Option (Nat × Option Nat × List Char)) :=
    if w.extended && w.lenient then .ok none
    else .error (if rest.isEmpty then .brace else .braceContent)
  let (least, rest) := readCount cs
  match rest with
  | ',' :: rest =>
    let (most, rest) := readCount rest
    match close rest with
    | some rest =>
      if most.any (· < least.getD 0) then .error .braceContent
      else if maxCount < max (least.getD 0) (most.getD 0) then .error .size
      else .ok (some (least.getD 0, most, rest))
    | none => senseless rest
  | rest =>
    match least, close rest with
    | some n, some rest => if maxCount < n then .error .size else .ok (some (n, some n, rest))
    | _, _ => senseless rest

/-- The repetition that comes next, and what follows it. -/
def readRepetition? (w : Writing) (cs : List Char) :
    Except Problem (Option (Nat × Option Nat × List Char)) :=
  match w.extended, cs with
  | _, '*' :: rest => .ok (some (0, none, rest))
  | true, '+' :: rest | false, '\\' :: '+' :: rest => .ok (some (1, none, rest))
  | true, '?' :: rest | false, '\\' :: '?' :: rest => .ok (some (0, some 1, rest))
  | true, '\x7b' :: rest | false, '\\' :: '\x7b' :: rest => readCounts w rest
  | _, _ => .ok none

/-- What has been read of an expression so far. -/
structure Reading where
  rest : List Char
  /-- The number of groups so far. -/
  groups : Nat := 0

mutual

/-- Reads alternatives up to the end, or up to the end of a group. -/
def readAlternatives (fuel : Nat) (w : Writing) (inGroup : Bool) (s : Reading) :
    Except Problem (Regex × Reading) :=
  match fuel with
  | 0 => .error .parenthesis
  | fuel + 1 => do
    let (a, s) ← readItems fuel w inGroup none s
    match w.extended, s.rest with
    | true, '|' :: rest | false, '\\' :: '|' :: rest =>
      let (b, s) ← readAlternatives fuel w inGroup { s with rest }
      return (either a b, s)
    | _, _ => return (a, s)

/-- Reads items one after the other. -/
def readItems (fuel : Nat) (w : Writing) (inGroup : Bool) (acc : Option Regex) (s : Reading) :
    Except Problem (Regex × Reading) :=
  match fuel with
  | 0 => .error .parenthesis
  | fuel + 1 => do
    let done : Except Problem (Regex × Reading) := .ok (acc.getD empty, s)
    match w.extended, s.rest with
    | _, [] => done
    | true, '|' :: _ | false, '\\' :: '|' :: _ => done
    | true, ')' :: _ =>
      if inGroup then done
      else if w.lenient then readItem fuel w inGroup acc s
      else .error .strayParenthesis
    | false, '\\' :: ')' :: _ => if inGroup then done else .error .strayParenthesis
    | _, _ => readItem fuel w inGroup acc s

/-- Reads one item with its repetitions, and the items after it. -/
def readItem (fuel : Nat) (w : Writing) (inGroup : Bool) (acc : Option Regex) (s : Reading) :
    Except Problem (Regex × Reading) :=
  match fuel with
  | 0 => .error .parenthesis
  | fuel + 1 => do
    let (item, s) ← readAtom fuel w inGroup acc.isNone s
    let (item, s) ← repeated fuel w item s
    readItems fuel w inGroup (some (match acc with
      | some a => both a item
      | none => item)) s

/-- An item with the repetitions after it. -/
def repeated (fuel : Nat) (w : Writing) (item : Regex) (s : Reading) :
    Except Problem (Regex × Reading) :=
  match fuel with
  | 0 => .error .parenthesis
  | fuel + 1 => do
    match ← readRepetition? w s.rest with
    | some (least, most, rest) =>
      let anchored := match item with
        | start => !w.extended
        | _ => false
      if anchored then return (item, s)
      repeated fuel w (times least most item) { s with rest }
    | none => return (item, s)

/-- Reads one item. -/
def readAtom (fuel : Nat) (w : Writing) (inGroup first : Bool) (s : Reading) :
    Except Problem (Regex × Reading) :=
  match fuel with
  | 0 => .error .parenthesis
  | fuel + 1 => do
    let inside (rest : List Char) : Except Problem (Regex × Reading) := do
      let number := s.groups + 1
      let (r, s) ← readAlternatives fuel w true ⟨rest, number⟩
      match w.extended, s.rest with
      | true, ')' :: rest | false, '\\' :: ')' :: rest => return (group number r, { s with rest })
      | _, _ => .error .parenthesis
    match w.extended, s.rest with
    | _, [] => return (empty, s)
    | true, '(' :: rest | false, '\\' :: '(' :: rest => inside rest
    | _, '[' :: rest =>
      let (r, rest) ← readSet rest
      return (r, { s with rest })
    | _, '.' :: rest => return (any, { s with rest })
    | true, '^' :: rest => return (start, { s with rest })
    | true, '$' :: rest => return (finish, { s with rest })
    | false, '^' :: rest => return (if first then start else exactly '^', { s with rest })
    | false, '$' :: rest =>
      let atEnd := match rest with
        | [] => true
        | '\\' :: ')' :: _ => inGroup
        | '\\' :: '|' :: _ => true
        | _ => false
      return (if atEnd then finish else exactly '$', { s with rest })
    | true, '*' :: rest | true, '+' :: rest | true, '?' :: rest =>
      -- A repetition of nothing is nothing.
      if w.lenient then return (empty, { s with rest }) else .error .repetition
    | _, '\\' :: [] => .error .backslash
    | _, '\\' :: c :: rest =>
      let s := { s with rest }
      match c with
      | '<' => return (wordStart, s)
      | '>' => return (wordEnd, s)
      | 'b' => return (wordEdge, s)
      | 'B' => return (wordInside, s)
      | 'w' => return (oneOf false [.named "alnum", .range '_' '_'], s)
      | 'W' => return (oneOf true [.named "alnum", .range '_' '_'], s)
      | 's' => return (oneOf false [.named "space"], s)
      | 'S' => return (oneOf true [.named "space"], s)
      | 'd' => return (if w.hasDigits then oneOf false [.range '0' '9'] else exactly c, s)
      | 'D' => return (if w.hasDigits then oneOf true [.range '0' '9'] else exactly c, s)
      | '\x60' => return (start, s)
      | '\'' => return (finish, s)
      | c =>
        if c.isDigit && c != '0' then
          let n := c.toNat - 48
          if s.groups < n then .error .again
          return (again n, s)
        return (exactly c, s)
    | _, c :: rest => return (exactly c, { s with rest })

end

/-- The expression that a text describes. -/
def parse (w : Writing) (cs : List Char) : Except Problem Regex := do
  let (r, s) ← readAlternatives (8 * (cs.length + 2)) w false ⟨cs, 0⟩
  if s.rest.isEmpty then return r else .error .strayParenthesis

/-- The signs for repetitions in an extended expression that have nothing before them to repeat.
`fresh` tells that there is nothing; `fuel` bounds the number of steps. -/
def emptyRepetitions (fuel : Nat) (fresh : Bool) (cs : List Char) : List String :=
  match fuel, cs with
  | 0, _ | _, [] => []
  | fuel + 1, c :: rest =>
    match c with
    | '(' | '|' => emptyRepetitions fuel true rest
    | '^' | '$' => emptyRepetitions fuel fresh rest
    | '*' | '+' | '?' =>
      (if fresh then [String.singleton c] else []) ++ emptyRepetitions fuel fresh rest
    | '\x7b' =>
      match readCounts { extended := true, lenient := true } rest with
      | .ok (some (_, _, rest)) =>
        (if fresh then ["\x7b...\x7d"] else []) ++ emptyRepetitions fuel fresh rest
      | _ => emptyRepetitions fuel false rest
    | '\\' => emptyRepetitions fuel false (rest.drop 1)
    | '[' =>
      match readSet rest with
      | .ok (_, rest) => emptyRepetitions fuel false rest
      | .error _ => []
    | _ => emptyRepetitions fuel false rest

end Regex

end AstCompare.Shell
