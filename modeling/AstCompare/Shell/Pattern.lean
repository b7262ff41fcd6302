/-!
# Patterns

A pattern fits a whole text. A star fits any text, a question mark any character, and brackets fit
one character of a set, or one that is not in it. Characters between quotes fit only themselves, so
a pattern is described by characters that know whether they are quoted.

## Main definitions

* `Pattern.Item`: a pattern is a list of items.
* `Pattern.parse`: the pattern that characters describe.
* `Pattern.fits`: whether a pattern fits a text.
* `Pattern.dropFront`, `Pattern.dropBack`: a text without a beginning or an end that fits.
-/

namespace AstCompare.Shell

/-- Classes of characters by name, where characters stand for bytes. -/
def characterClass? : String → Option (Char → Bool)
  | "alnum" => some Char.isAlphanum
  | "alpha" => some Char.isAlpha
  | "blank" => some fun c => c == ' ' || c == '\t'
  | "cntrl" => some fun c => c.toNat < 32 || c.toNat == 127
  | "digit" => some Char.isDigit
  | "graph" => some fun c => 32 < c.toNat && c.toNat < 127
  | "lower" => some Char.isLower
  | "print" => some fun c => 32 ≤ c.toNat && c.toNat < 127
  | "punct" => some fun c => 32 < c.toNat && c.toNat < 127 && !c.isAlphanum
  | "space" => some fun c => c == ' ' || (9 ≤ c.toNat && c.toNat ≤ 13)
  | "upper" => some Char.isUpper
  | "xdigit" => some fun c => c.isDigit || ('a' ≤ c && c ≤ 'f') || ('A' ≤ c && c ≤ 'F')
  | _ => none

namespace Pattern

/-- What a set between brackets is made of. -/
inductive Member where
  | range (first last : Char)
  | named (name : String)
  deriving DecidableEq, Repr

/-- The character is one of the members. -/
def Member.has (c : Char) : Member → Bool
  | range first last => first ≤ c && c ≤ last
  | named name => ((characterClass? name).map fun p => p c).getD false

/-- One item of a pattern. -/
inductive Item where
  | exactly (c : Char)
  | one
  | many
  /-- One character of a set, or one that is not in it. -/
  | oneOf (negated : Bool) (members : List Member)
  deriving DecidableEq, Repr

/-- A character that knows whether it is quoted. -/
abbrev Source := List (Char × Bool)

/-- The name of a class between colons, after the first colon, and what follows the bracket. -/
def className? (cs : Source) : Option (String × Source) :=
  let name := cs.takeWhile fun c => c.1.isAlpha && !c.2
  let name' := String.ofList (name.map Prod.fst)
  match cs.drop name.length with
  | (':', false) :: (']', false) :: rest =>
    if (characterClass? name').isSome then some (name', rest) else none
  | _ => none

/-- The members of a set up to its closing bracket, and what follows. A bracket at the beginning
stands for itself. `fuel` bounds the number of members. -/
def members? (fuel : Nat) (first : Bool) (cs : Source) : Option (List Member × Source) :=
  match fuel, cs with
  | 0, _ | _, [] => none
  | fuel + 1, (c, quoted) :: rest =>
    if c = ']' ∧ !quoted ∧ !first then some ([], rest)
    else
      let named := match c, quoted, rest with
        | '[', false, (':', false) :: more => className? more
        | _, _, _ => none
      match named with
      | some (name, more) =>
        (members? fuel false more).map fun (ms, left) => (.named name :: ms, left)
      | none =>
        match rest with
        | ('-', false) :: (e, q) :: more =>
          if e = ']' ∧ !q then
            (members? fuel false rest).map fun (ms, left) => (.range c c :: ms, left)
          else (members? fuel false more).map fun (ms, left) => (.range c e :: ms, left)
        | rest => (members? fuel false rest).map fun (ms, left) => (.range c c :: ms, left)

/-- The set after an opening bracket. -/
def set? (cs : Source) : Option (Item × Source) :=
  match cs with
  | ('!', false) :: rest =>
    (members? cs.length true rest).map fun (ms, left) => (.oneOf true ms, left)
  | cs => (members? (cs.length + 1) true cs).map fun (ms, left) => (.oneOf false ms, left)

/-- The pattern that characters describe. `fuel` bounds the number of its items. -/
def ofSource : Nat → Source → List Item
  | _, [] => []
  | 0, _ => []
  | fuel + 1, (c, true) :: cs => .exactly c :: ofSource fuel cs
  | fuel + 1, (c, false) :: cs =>
    if c = '*' then .many :: ofSource fuel cs
    else if c = '?' then .one :: ofSource fuel cs
    else if c = '[' then
      match set? cs with
      | some (item, rest) => item :: ofSource fuel rest
      | none => .exactly c :: ofSource fuel cs
    else .exactly c :: ofSource fuel cs

/-- The pattern that characters describe. -/
def parse (cs : Source) : List Item :=
  ofSource cs.length cs

/-- The pattern fits one text only. -/
def Item.isExact : Item → Bool
  | exactly _ => true
  | _ => false

/-- The item fits a character. -/
def Item.fits (c : Char) : Item → Bool
  | exactly d => c == d
  | one | many => true
  | oneOf negated members => (members.any (Member.has c)) != negated

/-- The pattern fits the whole text. -/
def fits : List Item → List Char → Bool
  | [], cs => cs.isEmpty
  | .many :: items, cs =>
    fits items cs ||
      match cs with
      | [] => false
      | _ :: cs => fits (.many :: items) cs
  | item :: items, c :: cs => item.fits c && fits items cs
  | _ :: _, [] => false
termination_by items cs => items.length + cs.length

/-- The text without its shortest or longest beginning that fits. -/
def dropFront (longest : Bool) (items : List Item) (cs : List Char) : List Char :=
  let lengths := List.range (cs.length + 1)
  let lengths := if longest then lengths.reverse else lengths
  match lengths.find? fun n => fits items (cs.take n) with
  | some n => cs.drop n
  | none => cs

/-- The text without its shortest or longest end that fits. -/
def dropBack (longest : Bool) (items : List Item) (cs : List Char) : List Char :=
  let lengths := List.range (cs.length + 1)
  let lengths := if longest then lengths else lengths.reverse
  match lengths.find? fun n => fits items (cs.drop n) with
  | some n => cs.take n
  | none => cs

end Pattern

end AstCompare.Shell
