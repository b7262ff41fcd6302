import AstCompare.Shell.Arithmetic
import AstCompare.Shell.View

/-!
# Conditions

The value of a condition such as `-f a.txt -a 1 -lt 2`. A word may be an operator or an operand, and
which of them it is depends on the words after it.

## Main definitions

* `Condition.Operator`, `Condition.operator?`: the operators.
* `Condition.evaluate`: the value of a condition for a process that sees a disk and streams.
-/

namespace AstCompare.Shell.Condition

/-- The operators of conditions. -/
inductive Operator where
  /-- Before one operand, by its letter. -/
  | unary (letter : Char)
  /-- Between two operands, by its name. -/
  | binary (name : String)
  | both
  | either
  | negation
  | openParenthesis
  | closeParenthesis
  deriving DecidableEq, Repr

/-- The operator that a word may be. -/
def operator? (s : String) : Option Operator :=
  match s with
  | "!" => some .negation
  | "(" => some .openParenthesis
  | ")" => some .closeParenthesis
  | "-a" => some .both
  | "-o" => some .either
  | _ =>
    if ["=", "!=", "<", ">", "-eq", "-ne", "-ge", "-gt", "-le", "-lt", "-nt", "-ot",
        "-ef"].contains s then
      some (.binary s)
    else
      match s.toList with
      | ['-', c] => if "rwxefdcbpugkstznhLOGS".toList.contains c then some (.unary c) else none
      | _ => none

/-- The word is an operator between two operands. -/
def isBinary (s : String) : Bool :=
  match operator? s with
  | some (.binary _) => true
  | _ => false

/-- What the first of some words is. -/
inductive Token where
  | finish
  | operand
  | operator (o : Operator)
  deriving DecidableEq, Repr

/-- What the first of some words is, where those after it are looked at. -/
def token : List String → Token
  | [] => .finish
  | s :: rest =>
    match operator? s with
    | none => .operand
    | some (.unary c) =>
      match rest with
      | [] => .operand
      | [_] => .operator (.unary c)
      | t :: _ => if isBinary t then .operand else .operator (.unary c)
    | some .openParenthesis => if rest.isEmpty then .operand else .operator .openParenthesis
    | some o => .operator o

/-- What is wrong with a condition. -/
inductive Problem where
  | missingArgument (operator : String)
  | unexpectedOperator (word : String)
  | openParenthesis
  | number (word : String)
  | missingBracket
  deriving DecidableEq, Repr

/-- The words for the problem with a condition. -/
def Problem.message : Problem → String
  | missingArgument operator => operator ++ ": argument expected"
  | unexpectedOperator word => word ++ ": unexpected operator"
  | openParenthesis => "closing paren expected"
  | number word => "Illegal number: " ++ word
  | missingBracket => "missing ]"

/-- The number that a word spells. -/
def number (s : String) : Except Problem Int :=
  let cs := s.toList.dropWhile isBlank
  let digits := match cs with
    | '-' :: ds | '+' :: ds => ds
    | ds => ds
  let body := digits.takeWhile Char.isDigit
  if body.isEmpty || !(digits.drop body.length).all isBlank then .error (.number s)
  else
    let n : Nat := body.foldl (fun n c => n * 10 + (c.toNat - 48)) 0
    let value : Int := if cs.head? = some '-' then -n else n
    if clamp value = value then .ok value else .error (.number s)

/-- What the disk says about a path. -/
def fileTest (v : View) (letter : Char) (p : String) : Bool :=
  match if letter == 'h' || letter == 'L' then v.lstat p else v.stat p with
  | .error _ => false
  | .ok (_, e) =>
    let a := e.attributes
    match letter with
    | 'e' => true
    | 'r' => a.allows .read
    | 'w' => a.allows .write
    | 'x' => a.allows .run
    | 'O' | 'G' => a.own
    | 'f' => e.isFile
    | 'd' => e.isDirectory
    | 'h' | 'L' => e.isLink
    | 'c' => (e matches .device _)
    | 'p' => (e matches .pipe _ _)
    | 's' =>
      match e with
      | .file _ c _ => c.size != 0
      | e => e.isDirectory
    | 'u' => a.mode / 0o4000 % 2 == 1
    | 'g' => a.mode / 0o2000 % 2 == 1
    | 'k' => a.mode / 0o1000 % 2 == 1
    | _ => false

/-- The value of an operator before an operand. -/
def unary (v : View) (letter : Char) (s : String) : Except Problem Bool :=
  match letter with
  | 'z' => .ok s.isEmpty
  | 'n' => .ok !s.isEmpty
  | 't' => do
    discard <| number s
    return false
  | c => .ok (fileTest v c s)

/-- Both entries are there, and the first one was changed later. -/
def isNewer (v : View) (a b : String) : Bool :=
  match v.stat a, v.stat b with
  | .ok (_, x), .ok (_, y) => decide (y.attributes.modified < x.attributes.modified)
  | _, _ => false

/-- Two entries are one: they stand at the same location, or are names of one file. -/
def isSame (x y : Location × Entry) : Bool :=
  match x.2, y.2 with
  | .file i _ _, .file j _ _ => i == j
  | .file _ _ _, _ | _, .file _ _ _ => false
  | _, _ => x.1 == y.1

/-- The value of an operator between two operands. -/
def binary (v : View) (name a b : String) : Except Problem Bool := do
  match name with
  | "=" => return a == b
  | "!=" => return a != b
  | "<" => return a < b
  | ">" => return b < a
  | "-nt" => return isNewer v a b
  | "-ot" => return isNewer v b a
  | "-ef" =>
    match v.stat a, v.stat b with
    | .ok x, .ok y => return isSame x y
    | _, _ => return false
  | _ =>
    let x ← number a
    let y ← number b
    return match name with
      | "-eq" => x == y
      | "-ne" => x != y
      | "-ge" => y ≤ x
      | "-gt" => y < x
      | "-le" => x ≤ y
      | _ => x < y

mutual

/-- The value of alternatives, whose first word has been looked at, and the words from the last one
of them on. -/
def alternatives (fuel : Nat) (v : View) (t : Token) (ws : List String) (before : Bool) :
    Except Problem (Bool × List String) :=
  match fuel with
  | 0 => .error .openParenthesis
  | fuel + 1 => do
    let (b, ws) ← conjunction fuel v t ws true
    if token ws.tail = .operator .either then
      alternatives fuel v (token (ws.drop 2)) (ws.drop 2) (before || b)
    else return (before || b, ws)

/-- The value of conditions that all have to hold. -/
def conjunction (fuel : Nat) (v : View) (t : Token) (ws : List String) (before : Bool) :
    Except Problem (Bool × List String) :=
  match fuel with
  | 0 => .error .openParenthesis
  | fuel + 1 => do
    let (b, ws) ← negation fuel v t ws
    if token ws.tail = .operator .both then
      conjunction fuel v (token (ws.drop 2)) (ws.drop 2) (before && b)
    else return (before && b, ws)

/-- The value of a condition that may be negated. -/
def negation (fuel : Nat) (v : View) (t : Token) (ws : List String) :
    Except Problem (Bool × List String) :=
  match fuel with
  | 0 => .error .openParenthesis
  | fuel + 1 =>
    if t = .operator .negation then do
      let next := token ws.tail
      let (b, ws) ← negation fuel v next (if next = .finish then ws else ws.tail)
      return (!b, ws)
    else primary fuel v t ws

/-- The value of a single condition, or of one in parentheses. -/
def primary (fuel : Nat) (v : View) (t : Token) (ws : List String) :
    Except Problem (Bool × List String) :=
  match fuel with
  | 0 => .error .openParenthesis
  | fuel + 1 => do
    match t with
    | .finish => return (false, ws)
    | .operator .openParenthesis =>
      let inner := ws.tail
      if token inner = .operator .closeParenthesis then return (false, inner)
      let (b, ws) ← alternatives fuel v (token inner) inner false
      if token ws.tail != .operator .closeParenthesis then .error .openParenthesis
      return (b, ws.tail)
    | .operator (.unary letter) =>
      match ws.tail with
      | [] => .error (.missingArgument (ws.headD ""))
      | s :: _ => return (← unary v letter s, ws.tail)
    | _ =>
      match ws with
      | a :: name :: rest =>
        if isBinary name then
          match rest with
          | [] => .error (.missingArgument name)
          | c :: _ => return (← binary v name a c, rest)
        else return (!a.isEmpty, ws)
      | [a] => return (!a.isEmpty, ws)
      | [] => return (false, ws)

end

/-- The value of a condition by the general rules, where what the first word is has been decided. -/
def whole (v : View) (t : Token) (ws : List String) : Except Problem Bool := do
  let (b, rest) ← alternatives (8 * ws.length + 8) v t ws false
  if 1 < rest.length then .error (.unexpectedOperator (rest.headD ""))
  return b

/-- The value of a condition. Three and four words are read by rules of their own: an operator
between two operands comes first, then parentheses around all, and a negation of the rest. `fuel`
bounds the number of negations. -/
def value (v : View) (fuel : Nat) (ws : List String) : Except Problem Bool :=
  if ws.isEmpty then .ok false
  else if ws.length = 3 ∧ isBinary ((ws[1]?).getD "") then whole v .operand ws
  else if (ws.length = 3 ∨ ws.length = 4) ∧ ws.head? = some "(" ∧ ws.getLast? = some ")" then
    whole v (token ws.tail.dropLast) ws.tail.dropLast
  else if (ws.length = 3 ∨ ws.length = 4) ∧ ws.head? = some "!" then
    match fuel with
    | 0 => .ok false
    | fuel + 1 => (value v fuel ws.tail).map not
  else whole v (token ws) ws

/-- The value of a condition. -/
def evaluate (v : View) (ws : List String) : Except Problem Bool :=
  value v ws.length ws

/-- The value of a condition between brackets, of which the second comes last. -/
def evaluateBracket (v : View) (ws : List String) : Except Problem Bool :=
  match ws.getLast? with
  | some "]" => evaluate v ws.dropLast
  | _ => .error .missingBracket

end AstCompare.Shell.Condition
