import AstCompare.Shell.Condition
import AstCompare.Shell.Printf
import AstCompare.Shell.Regex
import AstCompare.Shell.Tool.Moments
import AstCompare.Shell.Tool.Bytes

/-!
# Programs for values

Computing with numbers and texts, printing them, and asking about the system.

## Main definitions

* `calculate`: the value of an expression that is given by words.
* `countUp`: numbers in a row.
* `printArguments`, `printFormat`, `testCondition`: printing and testing.
-/

namespace AstCompare.Shell.Tool

/-! ### Expressions in words -/

namespace Calculation

/-- What is wrong with an expression. -/
inductive Problem where
  | missing (after : String)
  | unexpected (word : String)
  | parenthesis (after : String)
  | nonInteger
  | divisionByZero
  | regex (p : Regex.Problem)
  deriving DecidableEq, Repr

/-- The words for the problem with an expression. -/
def Problem.message : Problem → String
  | missing after => "syntax error: missing argument after '" ++ after ++ "'"
  | unexpected word => "syntax error: unexpected argument '" ++ word ++ "'"
  | parenthesis after => "syntax error: expecting ')' after '" ++ after ++ "'"
  | nonInteger => "non-integer argument"
  | divisionByZero => "division by zero"
  | regex p => p.message

/-- The whole number that a text is. -/
def integer? (s : String) : Option Int :=
  match s.toList with
  | '-' :: ds =>
    if !ds.isEmpty && ds.all Char.isDigit then (String.ofList ds).toNat?.map fun n => -(n : Int)
    else none
  | ds => if !ds.isEmpty && ds.all Char.isDigit then s.toNat?.map Int.ofNat else none

/-- The value counts as nothing. -/
def isNull (s : String) : Bool :=
  s.isEmpty || integer? s == some 0

/-- The value of a match: what the first group has found, or the length. -/
def matchValue (s pattern : String) : Except Problem String :=
  match Regex.parse {} pattern.toList with
  | .error e => .error (.regex e)
  | .ok r =>
    let grouped := (pattern.splitOn "\\(").length != 1
    .ok (match r.matchAt false ⟨0, none, s.toList, []⟩ with
      | some p =>
        if grouped then String.ofList ((p.found? 1).getD []) else toString p.position
      | none => if grouped then "" else "0")

/-- The value of an operator between two values. -/
def apply (operator a b : String) : Except Problem String := do
  let truth (v : Bool) : String := if v then "1" else "0"
  let number (s : String) : Except Problem Int :=
    match integer? s with
    | some n => .ok n
    | none => .error .nonInteger
  let order := match integer? a, integer? b with
    | some x, some y => compare x y
    | _, _ => compare a b
  match operator with
  | "|" => return if !isNull a then a else if !isNull b then b else "0"
  | "&" => return if isNull a || isNull b then "0" else a
  | "<" => return truth (order == .lt)
  | "<=" => return truth (order != .gt)
  | "=" | "==" => return truth (order == .eq)
  | "!=" => return truth (order != .eq)
  | ">=" => return truth (order != .lt)
  | ">" => return truth (order == .gt)
  | "+" => return toString ((← number a) + (← number b))
  | "-" => return toString ((← number a) - (← number b))
  | "*" => return toString ((← number a) * (← number b))
  | ":" => matchValue a b
  | _ =>
    let x ← number a
    let y ← number b
    if y == 0 then .error .divisionByZero
    return toString (if operator == "/" then x.tdiv y else x.tmod y)

/-- How strongly an operator binds. -/
def rank? : String → Option Nat
  | "|" => some 1
  | "&" => some 2
  | "<" | "<=" | "=" | "==" | "!=" | ">=" | ">" => some 3
  | "+" | "-" => some 4
  | "*" | "/" | "%" => some 5
  | ":" => some 6
  | _ => none

mutual

/-- Reads a value and the operators after it that bind at least as strongly as the rank. `before` is
the word that came last. -/
def operation (fuel rank : Nat) (before : String) (ws : List String) :
    Except Problem (String × String × List String) :=
  match fuel with
  | 0 => .error (.missing before)
  | fuel + 1 => do
    let (v, before, ws) ← operand fuel before ws
    operators fuel rank v before ws

/-- Extends a value by operators. -/
def operators (fuel rank : Nat) (v before : String) (ws : List String) :
    Except Problem (String × String × List String) :=
  match fuel with
  | 0 => .error (.missing before)
  | fuel + 1 =>
    match ws with
    | [] => .ok (v, before, [])
    | o :: rest =>
      match rank? o with
      | none => .ok (v, before, ws)
      | some r =>
        if r < rank then .ok (v, before, ws)
        else do
          let (w, before, rest) ← operation fuel (r + 1) o rest
          operators fuel rank (← apply o v w) before rest

/-- Reads one value. -/
def operand (fuel : Nat) (before : String) (ws : List String) :
    Except Problem (String × String × List String) :=
  match fuel with
  | 0 => .error (.missing before)
  | fuel + 1 =>
    match ws with
    | [] => .error (.missing before)
    | "(" :: rest => do
      let (v, before, rest) ← operation fuel 1 "(" rest
      match rest with
      | ")" :: rest => return (v, ")", rest)
      | [] => .error (.parenthesis before)
      | w :: _ => .error (.parenthesis w)
    | ")" :: _ => .error (.unexpected ")")
    | "+" :: w :: rest => .ok (w, w, rest)
    | "length" :: rest => do
      let (v, before, rest) ← operand fuel "length" rest
      return (toString v.length, before, rest)
    | "match" :: rest => do
      let (a, before, rest) ← operand fuel "match" rest
      let (b, before, rest) ← operand fuel before rest
      return (← matchValue a b, before, rest)
    | "index" :: rest => do
      let (a, before, rest) ← operand fuel "index" rest
      let (b, before, rest) ← operand fuel before rest
      let i := a.toList.findIdx? fun c => b.toList.contains c
      return (toString ((i.map (· + 1)).getD 0), before, rest)
    | "substr" :: rest => do
      let (a, before, rest) ← operand fuel "substr" rest
      let (b, before, rest) ← operand fuel before rest
      let (c, before, rest) ← operand fuel before rest
      match integer? b, integer? c with
      | some i, some n =>
        if i < 1 || n < 1 then return ("", before, rest)
        return (String.ofList ((a.toList.drop (i.toNat - 1)).take n.toNat), before, rest)
      | _, _ => return ("", before, rest)
    | w :: rest => .ok (w, w, rest)

end

/-- The value of an expression. -/
def evaluate (ws : List String) : Except Problem String := do
  let (v, _, rest) ← operation (8 * ws.length + 8) 1 "" ws
  match rest with
  | [] => return v
  | w :: _ => .error (.unexpected w)

end Calculation

/-- Prints the value of an expression. -/
def calculate : Tool := fun args => do
  let args := match args with
    | "--" :: rest => rest
    | args => args
  if args.isEmpty then misuse "expr" "missing operand" 2
  else
    match Calculation.evaluate args with
    | .error e => complain ("expr: " ++ e.message) 2
    | .ok v =>
      say (v ++ "\n")
      atLeast (if Calculation.isNull v then 1 else 0)

/-! ### Numbers in a row -/

/-- A number with decimals: its digits, and how many of them are decimals. -/
def decimal? (s : String) : Option (Int × Nat) :=
  let (negative, cs) := match s.toList with
    | '-' :: cs => (true, cs)
    | '+' :: cs => (false, cs)
    | cs => (false, cs)
  let whole := cs.takeWhile Char.isDigit
  let (decimals, rest) := match cs.drop whole.length with
    | '.' :: rest => (rest.takeWhile Char.isDigit, rest.dropWhile Char.isDigit)
    | rest => ([], rest)
  let power : Option Int := match rest with
    | [] => some 0
    | e :: ds =>
      if e == 'e' || e == 'E' then
        Calculation.integer? (String.ofList (if ds.head? == some '+' then ds.tail else ds))
      else none
  if whole.isEmpty && decimals.isEmpty then none
  else
    power.map fun (p : Int) =>
      let places : Int := decimals.length
      let n : Nat := (whole ++ decimals).foldl (fun n c => n * 10 + (c.toNat - 48)) 0
      let n : Int := if negative then -(n : Int) else n
      if p ≤ places then (n, (places - p).toNat) else (n * Nat.pow 10 (p - places).toNat, 0)

/-- The text of a number with so many decimals. -/
def decimalText (n : Int) (places : Nat) : String :=
  let sign := if n < 0 then "-" else ""
  if places = 0 then sign ++ toString n.natAbs
  else
    let unit := Nat.pow 10 places
    sign ++ toString (n.natAbs / unit) ++ "." ++ zeroPadded 10 places (n.natAbs % unit)

/-- The numbers from one to another by steps. `fuel` bounds how many there are. -/
def steps (fuel : Nat) (n step last : Int) : List Int :=
  match fuel with
  | 0 => []
  | fuel + 1 =>
    if (0 < step && last < n) || (step < 0 && n < last) then []
    else n :: steps fuel (n + step) step last

/-- Prints numbers in a row. -/
def countUp : Tool := fun args => do
  let rec options (s f : Option String) (w : Bool) :
      List String → Option String × Option String × Bool × List String
    | "-s" :: v :: rest => options (some v) f w rest
    | "-f" :: v :: rest => options s (some v) w rest
    | "-w" :: rest => options s f true rest
    | "--" :: rest => (s, f, w, rest)
    | a :: rest =>
      match a.toList with
      | '-' :: 's' :: c :: cs => options (some (String.ofList (c :: cs))) f w rest
      | '-' :: 'f' :: c :: cs => options s (some (String.ofList (c :: cs))) w rest
      | _ => (s, f, w, a :: rest)
    | [] => (s, f, w, [])
  let (separator, format, wide, args) := options none none false args
  match args.find? fun a => (decimal? a).isNone with
  | some a =>
    if a.startsWith "-" && 1 < a.length then
      misuse "seq" ("invalid option -- '" ++ ((a.drop 1).take 1).toString ++ "'") 1
    else misuse "seq" ("invalid floating point argument: " ++ cited a) 1
  | none =>
    let values := args.filterMap decimal?
    let go (first step last : Int × Nat) : Doing Unit := do
      if step.1 == 0 then
        misuse "seq" ("invalid Zero increment value: " ++ cited ((args[1]?).getD "")) 1
      else
        let places := max first.2 step.2
        let scale := max places last.2
        let up (v : Int × Nat) : Int := v.1 * Nat.pow 10 (scale - v.2)
        let count := ((up last - up first).natAbs / (up step).natAbs) + 2
        let ns := steps (min count 2000000) (up first) (up step) (up last)
        let text (n : Int) : String := decimalText (n / Nat.pow 10 (scale - places)) places
        let texts := ns.map text
        let width := ((texts ++ [text (up last)]).map String.length).foldl max 0
        let texts := texts.map fun t =>
          if wide then
            let zeros := String.ofList (List.replicate (width - t.length) '0')
            if t.startsWith "-" then "-" ++ zeros ++ (t.drop 1).toString else zeros ++ t
          else
            match format with
            | some f => (printf f [t]).out
            | none => t
        if !texts.isEmpty then say ((separator.getD "\n").intercalate texts ++ "\n")
    match values with
    | [] => misuse "seq" "missing operand" 1
    | [last] => go (1, 0) (1, 0) last
    | [first, last] => go first (1, 0) last
    | [first, step, last] => go first step last
    | _ => misuse "seq" ("extra operand " ++ cited ((args[3]?).getD "")) 1

/-! ### Printing and testing -/

/-- Prints its arguments. -/
def printArguments : Tool := fun args => do
  let isOption (s : String) : Bool :=
    match s.toList with
    | '-' :: c :: cs => (c :: cs).all fun d => ['n', 'e', 'E'].contains d
    | _ => false
  let options := args.takeWhile isOption
  let words := args.drop options.length
  let text := " ".intercalate words
  let newline := !options.any fun s => s.contains 'n'
  if options.any fun s => s.contains 'e' then
    let (cs, ended) := escapes text.toList
    say (String.ofList cs ++ if newline && !ended then "\n" else "")
  else say (text ++ if newline then "\n" else "")

/-- Prints arguments by a format. -/
def printFormat : Tool := fun args => do
  match args with
  | [] => misuse "printf" "missing operand" 1
  | format :: rest =>
    let p := printf format rest
    for c in p.complaints do
      warn ("printf: " ++ c)
    say p.out
    atLeast (min p.status 1)

/-- Tells by the exit code whether a condition holds. -/
def testCondition (bracket : Bool) : Tool := fun args => do
  let v ← view
  match if bracket then Condition.evaluateBracket v args else Condition.evaluate v args with
  | .ok v => atLeast (if v then 0 else 1)
  | .error e => complain ((if bracket then "[" else "test") ++ ": " ++ e.message) 2

/-! ### The system -/

/-- Prints variables. -/
def printVariables : Tool := fun args => do
  let vars := (← get).environment
  let names := args.filter (· != "--")
  if names.isEmpty then sayLines (vars.map fun (k, v) => k ++ "=" ++ v)
  else
    for name in names do
      match vars.lookup name with
      | some v => say (v ++ "\n")
      | none => atLeast 1

/-- The milliseconds of a time span. -/
def milliseconds? (s : String) : Option Nat :=
  let unit := match s.toList.getLast? with
    | some 's' => some 1
    | some 'm' => some 60
    | some 'h' => some 3600
    | some 'd' => some 86400
    | _ => none
  let body := if unit.isSome then (s.dropEnd 1).toString else s
  if body == "infinity" || body == "inf" then some 1000000000000
  else
    match decimal? body with
    | some (n, places) =>
      if n < 0 then none else some (n.toNat * 1000 * unit.getD 1 / Nat.pow 10 places)
    | none => none

/-- The argument is a time span. -/
def isSpan (s : String) : Bool :=
  (milliseconds? s).isSome

/-- Waits. -/
def sleep : Tool := fun args => do
  match args.find? fun s => !isSpan s with
  | some s => misuse "sleep" ("invalid time interval " ++ cited s) 1
  | none =>
    if args.isEmpty then misuse "sleep" "missing operand" 1
    else modify fun w => { w with slept := (args.filterMap milliseconds?).foldl (· + ·) 0 }

/-- Prints the working directory. -/
def workingDirectory : Tool := fun _ => do
  say ("/" ++ "/".intercalate ((← get).disk.cwd.map octets) ++ "\n")

/-- Prints what system this is. -/
def systemName : Tool := fun args => do
  let answer (s : String) : String := match s with
    | "-m" | "-p" | "-i" => "x86_64"
    | "-o" => "GNU/Linux"
    | "-n" => "localhost"
    | _ => "Linux"
  say (" ".intercalate (if args.isEmpty then ["Linux"] else args.map answer) ++ "\n")

/-- Prints who the user is. -/
def userIdentity : Tool := fun args => do
  let has (c : Char) : Bool := args.any fun s => s.startsWith "-" && s.contains c
  if has 'n' then say (if has 'u' then "nobody\n" else "nogroup\n")
  else if has 'u' || has 'g' || has 'G' then say "65534\n"
  else say "uid=65534(nobody) gid=65534(nogroup) groups=65534(nogroup)\n"

/-- Prints a fixed text. -/
def fixedText (s : String) (status : Nat) : Tool := fun _ => do
  say s
  atLeast status

/-- Prints the time, or one that is named. -/
def clock : Tool := fun args =>
  let names :=
    [("date", 'd'), ("utc", 'u'), ("universal", 'u'), ("reference", 'r'), ("rfc-email", 'R'),
      ("rfc-3339", '\x01')]
  -- How exact a time is may be attached to the option for it.
  let exactness := args.findSome? fun s =>
    ((s.dropPrefix? "--iso-8601=").or (s.dropPrefix? "-I")).map (·.toString)
  let args := args.map fun s => if s.startsWith "-I" || s.startsWith "--iso-8601" then "-I" else s
  let standardOf (word : String) : Option String := match word with
    | "" | "date" => some "%F"
    | "hours" => some "%FT%H%:z"
    | "minutes" => some "%FT%H:%M%:z"
    | "seconds" => some "%FT%T%:z"
    | "ns" => some "%FT%T,%N%:z"
    | _ => none
  withArguments "date" "uRI" "dr\x01" 1 (spellOut names args) fun a => do
    let now := momentOf (← get).disk.now
    let wrong := (a.others.find? fun s => !s.startsWith "+").or
      ((a.value? 'd').filter fun s => (moment? now s).isNone)
    let reference ← match a.value? 'r' with
      | some p => do pure (some (p, ← stat p))
      | none => pure none
    match wrong, reference with
    | some s, _ => complain ("date: invalid date " ++ cited s) 1
    | none, some (p, .error e) => complain ("date: " ++ shown p ++ ": " ++ e.reason) 1
    | none, reference =>
      let t : Int := match a.value? 'd', reference with
        | some s, _ => (moment? now s).getD now
        | none, some (_, .ok (_, e)) => momentOf e.attributes.modified
        | none, _ => now
      let standard := if a.has 'R' then "%a, %d %b %Y %T +0000"
        else if a.has 'I' then (standardOf (exactness.getD "")).getD "%F"
        else match a.value? '\x01' with
          | some "date" => "%F"
          | some "seconds" => "%F %T%:z"
          | some _ => "%F %T.%N%:z"
          | none => "%a %b %e %T %Z %Y"
      let format := ((a.others.head?).map fun s => (s.drop 1).toString).getD standard
      say (momentText t format.toList ++ "\n")

/-- The smallest factors of a number from a candidate on. `fuel` bounds the search. -/
def factorsFrom (fuel candidate n : Nat) : List Nat :=
  match fuel with
  | 0 => if 1 < n then [n] else []
  | fuel + 1 =>
    if n < 2 then []
    else if n < candidate * candidate then [n]
    else if n % candidate = 0 then candidate :: factorsFrom fuel candidate (n / candidate)
    else factorsFrom fuel (candidate + 1) n

/-- Prints the prime factors of numbers. -/
def factors : Tool := fun args => do
  let words ← if args.isEmpty then do
      pure ((linesOf (← takeInput).text).flatMap fun l => (l.splitOn " ").filter (· != ""))
    else pure args
  for w in words do
    match number? w with
    | some n =>
      say (w ++ ":" ++ String.join ((factorsFrom 200000 2 n).map fun f => " " ++ toString f) ++
        "\n")
    | none => complain ("factor: " ++ cited w ++ " is not a valid positive integer") 1

/-- Where the programs of some names are found along the search path. -/
def whichPrograms : Tool := fun args => do
  let w ← get
  let path := (w.environment.lookup "PATH").getD ""
  for name in args.filter fun s => !s.startsWith "-" do
    let candidates := if name.contains '/' then [name]
      else (path.splitOn ":").map fun dir => if dir.isEmpty then name else dir ++ "/" ++ name
    let runnable (p : String) : Bool := match w.disk.stat (unoctets p) with
      | .ok (_, .file _ _ a) => a.allows .run
      | _ => false
    match candidates.find? runnable with
    | some p => say (p ++ "\n")
    | none => atLeast 1

/-- Does nothing, with the given exit code. -/
def constant (status : Nat) : Tool := fun _ => atLeast status

/-- Only complains. -/
def complainOnly (s : String) (status : Nat) : Tool := fun _ => complain s status

end AstCompare.Shell.Tool
