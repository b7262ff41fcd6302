import AstCompare.Shell.Arithmetic
import AstCompare.Shell.Decimal

/-!
# Printing by a format

The format is printed with its directives replaced by arguments, again and again until no argument
is left. Escapes may stand for any byte; characters stand for bytes here.

## Main definitions

* `escapes`: a text with its escapes replaced.
* `printf`: a format with its arguments.
-/

namespace AstCompare.Shell

/-- Up to `n` octal digits: their value and the rest. -/
def octal (n value : Nat) (cs : List Char) : Nat × List Char :=
  match n, cs with
  | n + 1, c :: rest =>
    if '0' ≤ c ∧ c ≤ '7' then octal n (value * 8 + (c.toNat - 48)) rest else (value, cs)
  | _, _ => (value, cs)

theorem length_octal (n value : Nat) (cs : List Char) :
    (octal n value cs).2.length ≤ cs.length := by
  fun_induction octal n value cs with
  | case1 n value c rest h ih => simp only [List.length_cons]; omega
  | case2 => exact Nat.le_refl _
  | case3 => exact Nat.le_refl _

/-- The byte of a letter after a backslash. -/
def letterByte? : Char → Option Nat
  | 'a' => some 7
  | 'b' => some 8
  | 'e' => some 27
  | 'f' => some 12
  | 'n' => some 10
  | 'r' => some 13
  | 't' => some 9
  | 'v' => some 11
  | '\\' => some 92
  | _ => none

/-- Reads an escape after its backslash: what it stands for, and the rest. What is no escape stands
for itself. -/
def readEscape (cs : List Char) : List Char × List Char :=
  match cs with
  | [] => (['\\'], [])
  | c :: rest =>
    match letterByte? c with
    | some b => ([Char.ofNat b], rest)
    | none =>
      if '0' ≤ c ∧ c ≤ '7' then
        let (n, rest) := octal 3 0 cs
        ([Char.ofNat (n % 256)], rest)
      else (['\\', c], rest)

theorem length_readEscape (cs : List Char) : (readEscape cs).2.length ≤ cs.length := by
  unfold readEscape
  split
  · simp
  · split
    · simp
    · split
      · exact length_octal 3 0 _
      · simp

/-- What is left after a zero that stands before an octal digit. -/
def skipZero : List Char → List Char
  | '0' :: d :: cs => if '0' ≤ d ∧ d ≤ '7' then d :: cs else '0' :: d :: cs
  | cs => cs

theorem length_skipZero (cs : List Char) : (skipZero cs).length ≤ cs.length := by
  unfold skipZero
  split
  · split <;> simp
  · exact Nat.le_refl _

/-- A text with its escapes replaced, in which a zero may stand before octal digits. The escape
`\\c` ends the text, and it is told whether there was one. -/
def escapes (cs : List Char) : List Char × Bool :=
  match cs with
  | [] => ([], false)
  | '\\' :: 'c' :: _ => ([], true)
  | '\\' :: rest =>
    let r := readEscape (skipZero rest)
    let (out, ended) := escapes r.2
    (r.1 ++ out, ended)
  | c :: rest =>
    let (out, ended) := escapes rest
    (c :: out, ended)
termination_by cs.length
decreasing_by
  · have := length_readEscape (skipZero rest)
    have := length_skipZero rest
    simp only [List.length_cons]
    omega
  · simp only [List.length_cons]; omega

/-! ### Directives -/

/-- How a directive prints its argument. -/
structure Directive where
  flags : List Char := []
  width : Nat := 0
  precision : Option Nat := none
  letter : Char := 's'

namespace Directive

/-- The flag is set. -/
def has (d : Directive) (c : Char) : Bool :=
  d.flags.contains c

/-- The text with blanks around it up to the width. -/
def pad (d : Directive) (cs : List Char) : List Char :=
  let blanks := List.replicate (d.width - cs.length) ' '
  if d.has '-' then cs ++ blanks else blanks ++ cs

/-- The sign, the mark of a base, and the digits, with zeros between them up to the width if that is
wanted. -/
def padNumber (d : Directive) (zeros : Bool) (sign digits : List Char) : List Char :=
  if zeros && d.has '0' && !d.has '-' then
    sign ++ List.replicate (d.width - sign.length - digits.length) '0' ++ digits
  else d.pad (sign ++ digits)

/-- The sign of a number. -/
def sign (d : Directive) (negative : Bool) : List Char :=
  if negative then ['-'] else if d.has '+' then ['+'] else if d.has ' ' then [' '] else []

/-- The digits with zeros in front up to the precision; zero with precision zero has none. -/
def precise (d : Directive) (digits : List Char) : List Char :=
  match d.precision with
  | none => digits
  | some p =>
    if p = 0 ∧ digits = ['0'] then [] else List.replicate (p - digits.length) '0' ++ digits

/-- Prints a whole number. -/
def integer (d : Directive) (n : Int) : List Char :=
  d.padNumber d.precision.isNone (d.sign (n < 0)) (d.precise (toString n.natAbs).toList)

/-- Prints a whole number without a sign, in a base. -/
def unsigned (d : Directive) (n : Int) : List Char :=
  let n := (n % 0x10000000000000000).toNat
  let digits (base : Nat) : List Char := d.precise (Nat.toDigits base n)
  let marked (mark digits : List Char) : List Char :=
    d.padNumber d.precision.isNone (if d.has '#' && n != 0 then mark else []) digits
  match d.letter with
  | 'x' => marked ['0', 'x'] (digits 16)
  | 'X' => marked ['0', 'X'] ((digits 16).map Char.toUpper)
  | 'o' =>
    let ds := digits 8
    d.padNumber d.precision.isNone [] (if d.has '#' && ds.head? != some '0' then '0' :: ds else ds)
  | _ => d.padNumber d.precision.isNone [] (digits 10)

/-- Prints a number with decimals. -/
def real (d : Directive) (r : Decimal) : List Char :=
  let upper := d.letter.isUpper
  let places := d.precision.getD 6
  let cased (s : String) : List Char := if upper then s.toUpper.toList else s.toList
  match r with
  | .undefined => d.pad (cased "nan")
  | .infinite negative => d.pad (d.sign negative ++ cased "inf")
  | .finite negative n m =>
    let digits := match d.letter with
      | 'e' => Decimal.scientific 'e' (d.has '#') places n m
      | 'E' => Decimal.scientific 'E' (d.has '#') places n m
      | 'g' => Decimal.general 'e' (d.has '#') places n m
      | 'G' => Decimal.general 'E' (d.has '#') places n m
      | _ => Decimal.fixed (d.has '#') places n m
    d.padNumber true (d.sign negative) digits

/-- Prints a text, of which the precision takes the beginning. -/
def text (d : Directive) (cs : List Char) : List Char :=
  d.pad ((d.precision.map cs.take).getD cs)

end Directive

/-! ### Formats -/

/-- What a format has printed so far: the arguments that are left, the text, and what was wrong. A
text that has ended takes nothing more. -/
structure Printing where
  args : List String
  out : String := ""
  complaints : List String := []
  status : Nat := 0
  ended : Bool := false

namespace Printing

/-- Adds text. -/
def add (p : Printing) (cs : List Char) : Printing :=
  { p with out := p.out ++ String.ofList cs }

/-- Takes the next argument. -/
def take (p : Printing) : Option String × Printing :=
  (p.args.head?, { p with args := p.args.tail })

/-- Adds a complaint that does not stop the printing. -/
def complain (p : Printing) (s : String) : Printing :=
  { p with complaints := p.complaints ++ [s], status := 1 }

/-- Ends the printing with a complaint. -/
def stop (p : Printing) (s : String) : Printing :=
  { p with complaints := p.complaints ++ [s], status := 2, ended := true }

/-- Complains about an argument that is not wholly a number. -/
def check (p : Printing) (arg : String) (empty : Bool) (rest : List Char) : Printing :=
  if empty then p.complain (arg ++ ": expected numeric value")
  else if rest.isEmpty then p
  else p.complain (arg ++ ": not completely converted")

/-- The next argument as a whole number. -/
def takeInteger (signed : Bool) (p : Printing) : Int × Printing :=
  match p.take with
  | (none, p) => (0, p)
  | (some arg, p) =>
    match arg.toList with
    | [] => (0, p)
    | '\'' :: cs | '"' :: cs => ((cs.head?.map fun c => (c.toNat : Int)).getD 0, p)
    | cs =>
      let body := cs.dropWhile isBlank
      let (negative, digits) := match body with
        | '-' :: ds => (true, ds)
        | '+' :: ds => (false, ds)
        | ds => (false, ds)
      let (n, rest) := readNumber digits
      let value : Int := if negative then -n else n
      let p := p.check arg (!(digits.head?.map Char.isDigit).getD false) rest
      let bounded := if signed then clamp value else min value 0xffffffffffffffff
      if bounded = value then (value, p)
      else (bounded, p.complain (arg ++ ": Numerical result out of range"))

/-- The next argument as a number with decimals. -/
def takeReal (p : Printing) : Decimal × Printing :=
  match p.take with
  | (none, p) => (.finite false 0 1, p)
  | (some arg, p) =>
    match arg.toList with
    | [] => (.finite false 0 1, p)
    | '\'' :: cs | '"' :: cs => (.finite false ((cs.head?.map Char.toNat).getD 0) 1, p)
    | cs =>
      match Decimal.ofText? cs with
      | some (r, rest) => (r, p.check arg false rest)
      | none => (.finite false 0 1, p.complain (arg ++ ": expected numeric value"))

/-- A number within a directive, which may be taken from the arguments. -/
def takeWidth (p : Printing) (cs : List Char) : Option Int × Printing × List Char :=
  match cs with
  | '*' :: rest =>
    let (n, p) := p.takeInteger true
    (some n, p, rest)
  | cs =>
    let taken := cs.takeWhile fun c => c.isDigit || c == '*'
    if taken.isEmpty then (none, p, cs)
    else (some (Decimal.digitsValue (taken.filter Char.isDigit)), p, cs.drop taken.length)

theorem length_takeWidth (p : Printing) (cs : List Char) :
    (p.takeWidth cs).2.2.length ≤ cs.length := by
  unfold takeWidth
  split
  · simp
  · dsimp only
    split
    · exact Nat.le_refl _
    · simp

/-- Prints what a directive makes of the next argument. -/
def directive (p : Printing) (d : Directive) (source : List Char) : Printing :=
  match d.letter with
  | 'b' =>
    let (arg, p) := p.take
    let (cs, ended) := escapes (arg.getD "").toList
    { p.add (d.text cs) with ended }
  | 'c' =>
    let (arg, p) := p.take
    p.add (d.pad [((arg.getD "").toList.head?).getD '\x00'])
  | 's' =>
    let (arg, p) := p.take
    p.add (d.text (arg.getD "").toList)
  | 'd' | 'i' =>
    let (n, p) := p.takeInteger true
    p.add (d.integer n)
  | 'o' | 'u' | 'x' | 'X' =>
    let (n, p) := p.takeInteger false
    p.add (d.unsigned n)
  | 'e' | 'E' | 'f' | 'F' | 'g' | 'G' =>
    let (r, p) := p.takeReal
    p.add (d.real r)
  | _ => p.stop (String.ofList source ++ ": invalid directive")

/-- Reads a directive after its percent sign and prints it; what follows is returned. -/
def readDirective (p : Printing) (cs : List Char) : Printing × List Char :=
  let flags := cs.takeWhile fun c => ['#', '-', '+', ' ', '0'].contains c
  let w := p.takeWidth (cs.drop flags.length)
  let width := w.1.getD 0
  let flags := if width < 0 then '-' :: flags else flags
  let q : Option Nat × Printing × List Char := match w.2.2 with
    | '.' :: rest =>
      let t := w.2.1.takeWidth rest
      let n := t.1.getD 0
      (if n < 0 then none else some n.toNat, t.2.1, t.2.2)
    | rest => (none, w.2.1, rest)
  match q.2.2 with
  | [] => (q.2.1.stop "missing format character", [])
  | letter :: rest =>
    let source := '%' :: cs.take (cs.length - rest.length)
    (q.2.1.directive ⟨flags, width.natAbs, q.1, letter⟩ source, rest)

theorem length_readDirective (p : Printing) (cs : List Char) :
    (p.readDirective cs).2.length ≤ cs.length := by
  unfold readDirective
  dsimp only
  generalize (cs.takeWhile fun c => ['#', '-', '+', ' ', '0'].contains c) = flags
  have h := length_takeWidth p (cs.drop flags.length)
  simp only [List.length_drop] at h
  generalize p.takeWidth (cs.drop flags.length) = w at h ⊢
  split
  · simp
  · rename_i letter rest heq
    split at heq
    · rename_i more hw
      have h' := length_takeWidth w.2.1 more
      rw [hw] at h
      rw [heq] at h'
      simp only [List.length_cons] at h h' ⊢
      omega
    · rw [heq] at h
      simp only [List.length_cons] at h ⊢
      omega

/-- Prints the format once. -/
def once (p : Printing) (cs : List Char) : Printing :=
  if p.ended then p
  else
    match cs with
    | [] => p
    | '%' :: '%' :: rest => once (p.add ['%']) rest
    | '%' :: rest => once (p.readDirective rest).1 (p.readDirective rest).2
    | '\\' :: rest => once (p.add (readEscape rest).1) (readEscape rest).2
    | c :: rest => once (p.add [c]) rest
termination_by cs.length
decreasing_by
  · simp only [List.length_cons]; omega
  · have := length_readDirective p rest; simp only [List.length_cons]; omega
  · have := length_readEscape rest; simp only [List.length_cons]; omega
  · simp only [List.length_cons]; omega

/-- Prints the format until no argument is left, but `fuel` times more at most. -/
def all (fuel : Nat) (p : Printing) (format : List Char) : Printing :=
  let q := p.once format
  match fuel with
  | 0 => q
  | fuel + 1 =>
    if q.ended || q.args.isEmpty || q.args.length == p.args.length then q else all fuel q format

end Printing

/-- A format with its arguments. -/
def printf (format : String) (args : List String) : Printing :=
  Printing.all args.length { args } format.toList

end AstCompare.Shell
