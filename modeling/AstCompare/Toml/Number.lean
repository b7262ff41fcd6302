import AstCompare.Toml.Value

/-!
# Numbers and dates in TOML

Digits may be grouped by underscores, each between two digits. Integers are those of sixty-four bits
with sign; hexadecimal, octal and binary ones have no sign. A number with a fraction or an exponent
has to be below the point where double precision ends; smaller ones may vanish. Dates and times have
to exist in the calendar and on the clock, where a minute may have a sixty-first second.

## Main definitions

* `readInteger`, `readFloat`, `readDateTime`: one value and the rest of the text.
* `readNumber`: any of the three.
-/

namespace AstCompare.Toml

/-! ### Digits -/

/-- The digits after the first, with the underscores between them left out, and the rest. -/
def groupTail (isDigit : Char → Bool) : List Char → List Char × List Char
  | [] => ([], [])
  | [c] => if isDigit c then ([c], []) else ([], [c])
  | c :: d :: cs =>
    if isDigit c then
      let (ds, rest) := groupTail isDigit (d :: cs)
      (c :: ds, rest)
    else if c = '_' ∧ isDigit d then
      let (ds, rest) := groupTail isDigit cs
      (d :: ds, rest)
    else ([], c :: d :: cs)

/-- One digit or more, grouped by underscores. -/
def group (isDigit : Char → Bool) : List Char → Option (List Char × List Char)
  | [] => none
  | c :: cs =>
    if isDigit c then
      let (ds, rest) := groupTail isDigit cs
      some (c :: ds, rest)
    else none

/-- The value of a digit in any base up to sixteen. -/
def digitValue (c : Char) : Nat :=
  if c.isDigit then c.toNat - 48 else c.toLower.toNat - 87

/-- The number that digits stand for. -/
def numeral (base : Nat) (ds : List Char) : Nat :=
  ds.foldl (fun n c => n * base + digitValue c) 0

/-- The character is a digit of that base. -/
def isDigitOf (base : Nat) (c : Char) : Bool :=
  (c.isDigit || ('a' ≤ c && c ≤ 'f') || ('A' ≤ c && c ≤ 'F')) && digitValue c < base

/-- A sign, if there is one: whether it is a minus, and the rest. -/
def readSign : List Char → Bool × List Char
  | '+' :: cs => (false, cs)
  | '-' :: cs => (true, cs)
  | cs => (false, cs)

/-- The digits of a decimal integer, which does not start with a zero unless it is one. -/
def decimalDigits : List Char → Option (List Char × List Char)
  | '0' :: cs => some (['0'], cs)
  | cs => group Char.isDigit cs

/-! ### Integers -/

/-- The integer, if it has at most sixty-four bits. -/
def inRange (negative : Bool) (n : Nat) : Option Int :=
  if negative then (if n ≤ 0x8000000000000000 then some (-(n : Int)) else none)
  else if n < 0x8000000000000000 then some n
  else none

/-- An integer in a base that is announced by a letter. -/
def readBased (base : Nat) (cs : List Char) : Option (Value × List Char) := do
  let (ds, rest) ← group (isDigitOf base) cs
  let n ← inRange false (numeral base ds)
  return (.integer n, rest)

/-- An integer. -/
def readInteger : List Char → Option (Value × List Char)
  | '0' :: 'x' :: cs => readBased 16 cs
  | '0' :: 'o' :: cs => readBased 8 cs
  | '0' :: 'b' :: cs => readBased 2 cs
  | cs => do
    let (negative, cs) := readSign cs
    let (ds, rest) ← decimalDigits cs
    let n ← inRange negative (numeral 10 ds)
    return (.integer n, rest)

/-! ### Numbers with a fraction or an exponent -/

/-- The least number that double precision rounds to infinity. -/
def overflowBound : Nat := Nat.pow 2 1024 - Nat.pow 2 970

/-- The number `digits · 10 ^ exponent` is below the end of double precision. Numbers with far too
many or far too few places are told apart without computing them. -/
def isFinite (digits : Nat) (exponent : Int) : Bool :=
  let places : Int := (Nat.toDigits 10 digits).length + exponent
  if digits = 0 || places < 300 then true
  else if 320 < places then false
  else
    digits * Nat.pow 10 exponent.toNat < overflowBound * Nat.pow 10 (-exponent).toNat

/-- A fraction after the point, if there is one. -/
def readFraction : List Char → Option (List Char × List Char)
  | '.' :: cs => group Char.isDigit cs
  | _ => none

/-- The letter of an exponent. -/
def isExponentMark (c : Char) : Bool :=
  c == 'e' || c == 'E'

/-- An exponent, if there is one. -/
def readExponent : List Char → Option (Int × List Char)
  | [] => none
  | c :: cs =>
    if isExponentMark c then do
      let (negative, cs) := readSign cs
      let (ds, rest) ← group Char.isDigit cs
      let n : Int := numeral 10 ds
      return (if negative then -n else n, rest)
    else none

/-- The names of the numbers that no digits stand for. -/
def readSpecial : List Char → Option (List Char)
  | 'i' :: 'n' :: 'f' :: cs => some cs
  | 'n' :: 'a' :: 'n' :: cs => some cs
  | _ => none

/-- The characters before the rest. -/
def lexeme (cs rest : List Char) : String :=
  String.ofList (cs.take (cs.length - rest.length))

/-- A number with a fraction, an exponent or both, or one of the special ones. -/
def readFloat (cs : List Char) : Option (Value × List Char) :=
  let (negative, body) := readSign cs
  match readSpecial body with
  | some rest => some (.float (lexeme cs rest), rest)
  | none => do
    let (whole, afterWhole) ← decimalDigits body
    let (fraction, afterFraction) := (readFraction afterWhole).getD ([], afterWhole)
    let (exponent, rest) := (readExponent afterFraction).getD (0, afterFraction)
    if rest.length = afterWhole.length then none
    else if negative || isFinite (numeral 10 (whole ++ fraction)) (exponent - fraction.length) then
      some (.float (lexeme cs rest), rest)
    else none

/-! ### Dates and times -/

/-- A number of exactly `n` decimal digits. -/
def fixedDigits : Nat → Nat → List Char → Option (Nat × List Char)
  | 0, value, cs => some (value, cs)
  | _ + 1, _, [] => none
  | n + 1, value, c :: cs =>
    if c.isDigit then fixedDigits n (value * 10 + digitValue c) cs else none

/-- Exactly this character. -/
def expect (c : Char) : List Char → Option (List Char)
  | [] => none
  | d :: cs => if d = c then some cs else none

/-- The number of days of a month. -/
def daysIn (year month : Nat) : Nat :=
  if month = 2 then
    if year % 4 = 0 ∧ (year % 100 ≠ 0 ∨ year % 400 = 0) then 29 else 28
  else if month = 4 ∨ month = 6 ∨ month = 9 ∨ month = 11 then 30
  else 31

/-- A date. -/
def readDate (cs : List Char) : Option (List Char) := do
  let (year, cs) ← fixedDigits 4 0 cs
  let cs ← expect '-' cs
  let (month, cs) ← fixedDigits 2 0 cs
  let cs ← expect '-' cs
  let (day, cs) ← fixedDigits 2 0 cs
  if 1 ≤ month ∧ month ≤ 12 ∧ 1 ≤ day ∧ day ≤ daysIn year month then some cs else none

/-- The part of a second after the point. -/
def skipSecondFraction : List Char → Option (List Char)
  | '.' :: c :: cs => if c.isDigit then some (cs.dropWhile Char.isDigit) else none
  | '.' :: [] => none
  | cs => some cs

/-- A time of day. -/
def readTime (cs : List Char) : Option (List Char) := do
  let (hour, cs) ← fixedDigits 2 0 cs
  let cs ← expect ':' cs
  let (minute, cs) ← fixedDigits 2 0 cs
  let cs ← expect ':' cs
  let (second, cs) ← fixedDigits 2 0 cs
  if hour ≤ 23 ∧ minute ≤ 59 ∧ second ≤ 60 then skipSecondFraction cs else none

/-- The distance from universal time, if it is told. -/
def skipOffset (cs : List Char) : Option (List Char) :=
  match cs with
  | 'Z' :: rest => some rest
  | 'z' :: rest => some rest
  | c :: rest =>
    if c = '+' ∨ c = '-' then do
      let (hour, rest) ← fixedDigits 2 0 rest
      let rest ← expect ':' rest
      let (minute, rest) ← fixedDigits 2 0 rest
      if hour ≤ 23 ∧ minute ≤ 59 then some rest else none
    else some cs
  | [] => some []

/-- The time after a date, if there is one. -/
def readTimeAfterDate : List Char → Option (List Char)
  | [] => none
  | c :: cs =>
    if c = 'T' ∨ c = 't' ∨ c = ' ' then do
      let cs ← readTime cs
      skipOffset cs
    else none

/-- A date, a time of day, or both. -/
def readDateTime (cs : List Char) : Option (Value × List Char) :=
  match readDate cs with
  | some afterDate =>
    let rest := (readTimeAfterDate afterDate).getD afterDate
    some (.dateTime (lexeme cs rest), rest)
  | none => (readTime cs).map fun rest => (.dateTime (lexeme cs rest), rest)

/-- A date or a number. -/
def readNumber (cs : List Char) : Option (Value × List Char) :=
  readDateTime cs <|> readFloat cs <|> readInteger cs

end AstCompare.Toml
