/-!
# Sums

The value of a sum such as `2 * (i + 1)`. Numbers are whole and have sixty-four bits, division goes
towards zero, and a comparison is one or zero. Names stand for variables; one that is not set counts
as zero. A sum may give variables new values.

A sum is first read into a tree and then evaluated, where the second operand of an operator may be
left aside.

## Main definitions

* `Arithmetic.Expr`, `Arithmetic.parse`: a sum as a tree.
* `Arithmetic.evaluate`: the value of a sum and the variables that it changes.
-/

namespace AstCompare.Shell

/-- The number that a text starts with, in the base that its beginning tells, and what follows
it. -/
def readNumber (cs : List Char) : Nat × List Char :=
  let digits (base : Nat) (cs : List Char) : Nat × List Char :=
    let value (c : Char) : Nat :=
      if c.isDigit then c.toNat - 48
      else if 'a' ≤ c ∧ c ≤ 'z' then c.toNat - 87
      else if 'A' ≤ c ∧ c ≤ 'Z' then c.toNat - 55
      else 99
    let taken := cs.takeWhile fun c => value c < base
    (taken.foldl (fun n c => n * base + value c) 0, cs.drop taken.length)
  match cs with
  | '0' :: x :: d :: rest =>
    if (x = 'x' ∨ x = 'X') ∧ (digits 16 [d]).2.isEmpty then digits 16 (d :: rest)
    else if (x = 'b' ∨ x = 'B') ∧ (digits 2 [d]).2.isEmpty then digits 2 (d :: rest)
    else digits 8 cs
  | '0' :: _ => digits 8 cs
  | _ => digits 10 cs

/-- The greatest number of sixty-four bits. -/
def maxInteger : Int := 0x7fffffffffffffff

/-- The number within the bounds of sixty-four bits that is nearest. -/
def clamp (n : Int) : Int :=
  max (-0x8000000000000000) (min maxInteger n)

/-- The number of sixty-four bits that is left of a greater one. -/
def wrap (n : Int) : Int :=
  n.bmod 0x10000000000000000

/-- The character is a blank. -/
def isBlank (c : Char) : Bool :=
  c == ' ' || (9 ≤ c.toNat && c.toNat ≤ 13)

/-- The whole number that a text spells, with blanks around it. -/
def integer? (s : String) : Option Int :=
  let cs := s.toList.dropWhile isBlank
  let (negative, cs) := match cs with
    | '-' :: rest => (true, rest)
    | '+' :: rest => (false, rest)
    | cs => (false, cs)
  let (n, rest) := readNumber cs
  if !(cs.head?.map Char.isDigit).getD false || !rest.all isBlank then none
  else some (clamp (if negative then -n else n))

namespace Arithmetic

/-- What is wrong with a sum. -/
inductive Problem where
  | primary
  | parenthesis
  | colon
  | finish
  | divisionByZero
  | number (text : String)
  | tooDeep
  deriving DecidableEq, Repr

/-- The words for the problem with a sum. -/
def Problem.message (source : String) : Problem → String
  | number text => "Illegal number: " ++ text
  | p =>
    let what := match p with
      | primary => "expecting primary"
      | parenthesis => "expecting ')'"
      | colon => "expecting ':'"
      | finish => "expecting EOF"
      | divisionByZero => "division by zero"
      | _ => "nesting too deep"
    "arithmetic expression: " ++ what ++ ": \"" ++ source ++ "\""

/-- A token of a sum. -/
inductive Symbol where
  | number (n : Int)
  | name (s : String)
  | sign (s : String)
  deriving DecidableEq, Repr

/-- A sum as a tree. -/
inductive Expr where
  | number (n : Int)
  | name (s : String)
  | unary (sign : String) (e : Expr)
  | binary (sign : String) (a b : Expr)
  | choice (condition a b : Expr)
  | assign (name : String) (sign : Option String) (e : Expr)

/-- The signs, longer ones first. -/
def signs : List String :=
  ["<<=", ">>=", "<<", ">>", "<=", ">=", "==", "!=", "&&", "||", "+=", "-=", "*=", "/=", "%=", "&=",
    "|=", "^=", "+", "-", "*", "/", "%", "<", ">", "=", "!", "~", "&", "|", "^", "?", ":", "(", ")"]

/-- The tokens of a sum. What is no token ends them with a sign of its own. `fuel` bounds their
number. -/
def symbols : Nat → List Char → List Symbol
  | 0, _ | _, [] => []
  | fuel + 1, c :: cs =>
    if c = ' ' ∨ c = '\t' ∨ c = '\n' then symbols fuel cs
    else if c.isDigit then
      let (n, rest) := readNumber (c :: cs)
      .number (clamp n) :: symbols fuel rest
    else if c.isAlpha ∨ c = '_' then
      let isNameChar (c : Char) : Bool := c.isAlphanum || c == '_'
      .name (String.ofList (c :: cs.takeWhile isNameChar)) :: symbols fuel (cs.dropWhile isNameChar)
    else
      match signs.find? fun s => s.toList.isPrefixOf (c :: cs) with
      | some s => .sign s :: symbols fuel ((c :: cs).drop s.length)
      | none => [.sign (String.singleton c)]

/-- How strongly a sign between two values binds. -/
def rank? : String → Option Nat
  | "||" => some 1
  | "&&" => some 2
  | "|" => some 3
  | "^" => some 4
  | "&" => some 5
  | "==" | "!=" => some 6
  | "<" | "<=" | ">" | ">=" => some 7
  | "<<" | ">>" => some 8
  | "+" | "-" => some 9
  | "*" | "/" | "%" => some 10
  | _ => none

/-- The sign that an assignment applies before it assigns. -/
def assignment? : String → Option (Option String)
  | "=" => some none
  | "+=" => some (some "+")
  | "-=" => some (some "-")
  | "*=" => some (some "*")
  | "/=" => some (some "/")
  | "%=" => some (some "%")
  | "<<=" => some (some "<<")
  | ">>=" => some (some ">>")
  | "&=" => some (some "&")
  | "|=" => some (some "|")
  | "^=" => some (some "^")
  | _ => none

mutual

/-- Reads an assignment or a choice. -/
def readAssignment (fuel : Nat) (ss : List Symbol) : Except Problem (Expr × List Symbol) :=
  match fuel with
  | 0 => .error .tooDeep
  | fuel + 1 =>
    match ss with
    | .name s :: .sign a :: rest =>
      match assignment? a with
      | some sign => do
        let (e, rest) ← readAssignment fuel rest
        return (.assign s sign e, rest)
      | none => readChoice fuel ss
    | ss => readChoice fuel ss

/-- Reads a choice between two values. -/
def readChoice (fuel : Nat) (ss : List Symbol) : Except Problem (Expr × List Symbol) :=
  match fuel with
  | 0 => .error .tooDeep
  | fuel + 1 => do
    let (c, rest) ← readOperand fuel ss
    let (c, rest) ← readOperators fuel 1 c rest
    match rest with
    | .sign "?" :: rest =>
      let (a, rest) ← readAssignment fuel rest
      match rest with
      | .sign ":" :: rest =>
        let (b, rest) ← readChoice fuel rest
        return (.choice c a b, rest)
      | _ => .error .colon
    | rest => return (c, rest)

/-- Extends a value by the signs that bind at least as strongly as the rank. -/
def readOperators (fuel : Nat) (rank : Nat) (a : Expr) (ss : List Symbol) :
    Except Problem (Expr × List Symbol) :=
  match fuel with
  | 0 => .error .tooDeep
  | fuel + 1 =>
    match ss with
    | .sign s :: rest =>
      match rank? s with
      | some r =>
        if r < rank then return (a, ss)
        else do
          let (b, rest) ← readOperand fuel rest
          let (b, rest) ← readOperators fuel (r + 1) b rest
          readOperators fuel rank (.binary s a b) rest
      | none => return (a, ss)
    | ss => return (a, ss)

/-- Reads a number, a name, a value in parentheses, or one with a sign before it. -/
def readOperand (fuel : Nat) (ss : List Symbol) : Except Problem (Expr × List Symbol) :=
  match fuel with
  | 0 => .error .tooDeep
  | fuel + 1 =>
    match ss with
    | .number n :: rest => .ok (.number n, rest)
    | .name s :: rest => .ok (.name s, rest)
    | .sign "(" :: rest => do
      let (e, rest) ← readAssignment fuel rest
      match rest with
      | .sign ")" :: rest => return (e, rest)
      | _ => .error .parenthesis
    | .sign s :: rest =>
      if s = "+" ∨ s = "-" ∨ s = "!" ∨ s = "~" then do
        let (e, rest) ← readOperand fuel rest
        return (.unary s e, rest)
      else .error .primary
    | [] => .error .primary

end

/-- The tree of a sum. -/
def parse (cs : List Char) : Except Problem Expr := do
  let ss := symbols (cs.length + 1) cs
  let (e, rest) ← readAssignment (4 * (ss.length + 2)) ss
  if rest.isEmpty then return e else .error .finish

/-- The number of a truth value. -/
def ofBool (b : Bool) : Int :=
  if b then 1 else 0

/-- Bit by bit, on the representations in sixty-four bits. -/
def bitwise (f : Nat → Nat → Nat) (a b : Int) : Int :=
  wrap (f (a % 0x10000000000000000).toNat (b % 0x10000000000000000).toNat)

/-- The value of a sign between two values, which a division by zero has not. -/
def apply (sign : String) (a b : Int) : Except Problem Int :=
  match sign with
  | "|" => .ok (bitwise Nat.lor a b)
  | "^" => .ok (bitwise Nat.xor a b)
  | "&" => .ok (bitwise Nat.land a b)
  | "==" => .ok (ofBool (a == b))
  | "!=" => .ok (ofBool (a != b))
  | "<" => .ok (ofBool (a < b))
  | "<=" => .ok (ofBool (a ≤ b))
  | ">" => .ok (ofBool (b < a))
  | ">=" => .ok (ofBool (b ≤ a))
  | "<<" => .ok (wrap (a * Nat.pow 2 (b % 64).toNat))
  | ">>" => .ok (a.fdiv (Nat.pow 2 (b % 64).toNat))
  | "+" => .ok (wrap (a + b))
  | "-" => .ok (wrap (a - b))
  | "*" => .ok (wrap (a * b))
  | "/" => if b = 0 then .error .divisionByZero else .ok (wrap (a.tdiv b))
  | "%" => if b = 0 then .error .divisionByZero else .ok (a.tmod b)
  | _ => .error .primary

/-- The variables that a sum has changed, the latest first. -/
abbrev Changes := List (String × Int)

/-- The value of a name. -/
def valueOf (lookup : String → Option String) (changes : Changes) (name : String) :
    Except Problem Int :=
  match changes.lookup name with
  | some n => .ok n
  | none =>
    match lookup name with
    | none => .ok 0
    | some s =>
      if s.isEmpty then .ok 0
      else
        match integer? s with
        | some n => .ok n
        | none => .error (.number s)

/-- The value of a sum, and the changes after it. -/
def evaluate (lookup : String → Option String) (changes : Changes) :
    Expr → Except Problem (Int × Changes)
  | .number n => .ok (n, changes)
  | .name s => do return (← valueOf lookup changes s, changes)
  | .unary sign e => do
    let (a, changes) ← evaluate lookup changes e
    return (if sign = "-" then wrap (-a) else if sign = "!" then ofBool (a == 0)
      else if sign = "~" then -a - 1 else a, changes)
  | .binary "||" a b => do
    let (x, changes) ← evaluate lookup changes a
    if x != 0 then return (1, changes)
    let (y, changes) ← evaluate lookup changes b
    return (ofBool (y != 0), changes)
  | .binary "&&" a b => do
    let (x, changes) ← evaluate lookup changes a
    if x == 0 then return (0, changes)
    let (y, changes) ← evaluate lookup changes b
    return (ofBool (y != 0), changes)
  | .binary sign a b => do
    let (x, changes) ← evaluate lookup changes a
    let (y, changes) ← evaluate lookup changes b
    return (← apply sign x y, changes)
  | .choice c a b => do
    let (x, changes) ← evaluate lookup changes c
    if x != 0 then evaluate lookup changes a else evaluate lookup changes b
  | .assign name sign e => do
    let (y, changes) ← evaluate lookup changes e
    let n ← match sign with
      | none => .ok y
      | some s => do apply s (← valueOf lookup changes name) y
    return (n, (name, n) :: changes)

/-- The value of the text of a sum, and the changes that it makes, the latest first. -/
def run (lookup : String → Option String) (s : String) : Except Problem (Int × Changes) := do
  evaluate lookup [] (← parse s.toList)

end Arithmetic

end AstCompare.Shell
