import AstCompare.Shell.Signal
import AstCompare.Shell.Tool.Values

/-!
# Programs that start others

Some programs only prepare the ground for another one: they change its variables, give it arguments
from their input, or limit its time. What they have in mind is worked out here, from their
arguments; it is carried out where programs are started.

## Main definitions

* `Plan`: what such a program has in mind.
* `plan`: the plan of a program.
-/

namespace AstCompare.Shell

/-- How the time of a program is limited. -/
structure Limit where
  /-- How long it may take, in milliseconds. -/
  span : Nat
  /-- The signal that comes when it is over. -/
  signal : Nat := endSignal
  /-- How much later it is ended for certain. -/
  grace : Option Nat := none
  /-- Its own exit code is told, also when it was ended. -/
  keepsStatus : Bool := false

/-- What a program that starts others has in mind. -/
inductive Plan where
  | print (text : String)
  | refuse (complaint : String) (status : Nat)
  /-- Becomes a program with some variables, in a directory. -/
  | once (name : String) (arguments : List String) (environment : List (String × String))
      (directory : Option String)
  /-- Starts a program within a time. -/
  | timed (name : String) (arguments : List String) (environment : List (String × String))
      (limit : Limit)
  /-- Starts programs one after the other. Their command lines may be shown before. -/
  | each (lines : List (List String)) (traced : Bool)

namespace Plan

/-- The complaint about wrong arguments. -/
def misuse (name complaint : String) (status : Nat) : Plan :=
  .refuse (complaint ++ "\nTry '" ++ name ++ " --help' for more information.") status

/-! ### Variables -/

/-- What is to be done to variables. -/
structure Variables where
  bindings : List (String × String)
  directory : Option String := none
  /-- What ends the lines when they are printed. -/
  ending : String := "\n"

/-- The variables with one set. -/
def Variables.set (v : Variables) (name value : String) : Variables :=
  { v with bindings := if v.bindings.any fun b => b.1 == name then
      v.bindings.map fun b => if b.1 == name then (name, value) else b
    else v.bindings ++ [(name, value)] }

/-- The variables without one. -/
def Variables.drop (v : Variables) (name : String) : Variables :=
  { v with bindings := v.bindings.filter fun b => b.1 != name }

/-- Reads the letters of one argument. What is left over is an option whose argument comes next. -/
def readVariableLetters (v : Variables) : List Char → Except Char (Variables × Option Char)
  | [] => .ok (v, none)
  | 'i' :: cs => readVariableLetters { v with bindings := [] } cs
  | '0' :: cs => readVariableLetters { v with ending := "\x00" } cs
  | 'v' :: cs => readVariableLetters v cs
  | ['u'] => .ok (v, some 'u')
  | ['C'] => .ok (v, some 'C')
  | 'u' :: cs => .ok (v.drop (String.ofList cs), none)
  | 'C' :: cs => .ok ({ v with directory := some (String.ofList cs) }, none)
  | c :: _ => .error c

/-- Sets variables for a program, or prints them. `name` is that of this program. -/
def fromVariables (name : String) (v : Variables) (waiting : Option Char) : List String → Plan
  | [] =>
    match waiting with
    | some c => misuse name ("option requires an argument -- '" ++ String.singleton c ++ "'") 125
    | none => .print (String.join (v.bindings.map fun (k, s) => k ++ "=" ++ s ++ v.ending))
  | s :: rest =>
    match waiting with
    | some 'u' => fromVariables name (v.drop s) none rest
    | some _ => fromVariables name { v with directory := some s } none rest
    | none =>
      match s.toList with
      | ['-'] => fromVariables name { v with bindings := [] } none rest
      | '-' :: '-' :: cs =>
        let option := String.ofList (cs.takeWhile (· != '='))
        let value := (cs.dropWhile (· != '=')).tail
        match option with
        | "" => operands v rest
        | "ignore-environment" => fromVariables name { v with bindings := [] } none rest
        | "null" => fromVariables name { v with ending := "\x00" } none rest
        | "unset" => fromVariables name (v.drop (String.ofList value)) none rest
        | "chdir" => fromVariables name { v with directory := some (String.ofList value) } none rest
        | _ => misuse name ("unrecognized option '" ++ s ++ "'") 125
      | '-' :: c :: cs =>
        match readVariableLetters v (c :: cs) with
        | .ok (v, waiting) => fromVariables name v waiting rest
        | .error c => misuse name ("invalid option -- '" ++ String.singleton c ++ "'") 125
      | _ => operands v (s :: rest)
where
  /-- Assignments, and then the program. -/
  operands (v : Variables) : List String → Plan
    | [] => .print (String.join (v.bindings.map fun (k, s) => k ++ "=" ++ s ++ v.ending))
    | s :: rest =>
      match s.toList.dropWhile (· != '=') with
      | _ :: value =>
        operands (v.set (String.ofList (s.toList.takeWhile (· != '='))) (String.ofList value)) rest
      | [] => .once s rest v.bindings v.directory

/-- Takes an argument apart that holds several, as the first lines of scripts need it. -/
def splitFirst : List String → List String
  | "-S" :: s :: rest => (s.splitOn " ").filter (· != "") ++ rest
  | s :: rest =>
    if s.startsWith "-S" then ((s.drop 2).toString.splitOn " ").filter (· != "") ++ rest
    else s :: rest
  | [] => []

/-! ### Arguments from the input -/

/-- The words in a text: quotes hold blanks together, a backslash protects. Fails if a quote is not
closed. -/
def quotedWords (present : Option (List Char)) (quote : Option Char) :
    List Char → Except Char (List String)
  | [] =>
    match quote with
    | some q => .error q
    | none => .ok (present.map fun cs => String.ofList cs.reverse).toList
  | c :: cs =>
    match quote with
    | some q =>
      if c == '\n' then .error q
      else if c == q then quotedWords (some (present.getD [])) none cs
      else quotedWords (some (c :: present.getD [])) quote cs
    | none =>
      if c == ' ' || c == '\t' || c == '\n' then do
        return (present.map fun cs => String.ofList cs.reverse).toList ++
          (← quotedWords none none cs)
      else if c == '\'' || c == '"' then quotedWords (some (present.getD [])) (some c) cs
      else if c == '\\' then
        match cs with
        | d :: ds => quotedWords (some (d :: present.getD [])) none ds
        | [] => quotedWords present none []
      else quotedWords (some (c :: present.getD [])) none cs

/-- A line without quotes and the backslashes that protect. -/
def unquoted (quote : Option Char) : List Char → Except Char (List Char)
  | [] =>
    match quote with
    | some q => .error q
    | none => .ok []
  | c :: cs =>
    match quote with
    | some q => if c == q then unquoted none cs else return c :: (← unquoted quote cs)
    | none =>
      if c == '\'' || c == '"' then unquoted (some c) cs
      else if c == '\\' then
        match cs with
        | d :: ds => return d :: (← unquoted none ds)
        | [] => .ok []
      else return c :: (← unquoted none cs)

/-- The elements in groups. `fuel` bounds their number. -/
def groupsOf {α : Type} (size fuel : Nat) (ws : List α) : List (List α) :=
  match fuel, ws with
  | 0, _ | _, [] => []
  | fuel + 1, ws => ws.take (max size 1) :: groupsOf size fuel (ws.drop (max size 1))

/-- Lines, where one that ends in a blank goes on with the next. -/
def joinedLines : List String → List String
  | a :: b :: rest =>
    if a.endsWith " " || a.endsWith "\t" then
      match joinedLines (b :: rest) with
      | c :: more => (a ++ c) :: more
      | [] => [a]
    else a :: joinedLines (b :: rest)
  | ls => ls

/-- The pieces between separators; the last one may lack its separator. -/
def piecesBetween (separator text : String) : List String :=
  let parts := text.splitOn separator
  if parts.getLast? == some "" then parts.dropLast else parts

/-- The command lines for the arguments in a text. -/
def argumentLines (a : Tool.Arguments) (command : List String) (text : String) :
    Except Char (List (List String)) := do
  let number (c : Char) : Option Nat := (a.value? c).bind Tool.number?
  let separator := if a.has '0' then some "\x00"
    else (a.value? 'd').map fun d => if d == "\\n" then "\n" else if d == "\\0" then "\x00" else d
  match a.value? 'I', number 'L' with
  | some mark, _ =>
    let items ← match separator with
      | some s => pure (piecesBetween s text)
      | none => (linesOf text).mapM fun l => do
        return String.ofList (← unquoted none (l.toList.dropWhile fun c => c == ' ' || c == '\t'))
    return (items.filter (· != "")).map fun i => command.map fun (w : String) => w.replace mark i
  | none, some size =>
    let filled := (joinedLines (linesOf text)).filter fun l =>
      l.toList.any fun c => c != ' ' && c != '\t'
    (groupsOf size filled.length filled).mapM fun g => do
      return command ++ (← g.mapM fun l => quotedWords none none l.toList).flatten
  | none, none =>
    let items ← match separator with
      | some s => pure (piecesBetween s text)
      | none => quotedWords none none text.toList
    if items.isEmpty then return if a.has 'r' then [] else [command]
    return (groupsOf ((number 'n').getD items.length) items.length items).map fun g => command ++ g

/-- Gives a program arguments from a text. -/
def fromInput (name : String) (a : Tool.Arguments) (text : String) : Plan :=
  let numbers := ['n', 'L', 'P', 's']
  match a.unknown, a.missing,
    a.values.find? fun v => numbers.contains v.1 && (Tool.number? v.2).isNone with
  | some c, _, _ => misuse name ("invalid option -- '" ++ String.singleton c ++ "'") 1
  | none, some c, _ =>
    misuse name ("option requires an argument -- '" ++ String.singleton c ++ "'") 1
  | none, none, some (c, v) =>
    misuse name ("invalid number \"" ++ v ++ "\" for -" ++ String.singleton c ++ " option") 1
  | none, none, none =>
    match argumentLines a (if a.others.isEmpty then ["echo"] else a.others) text with
    | .error q =>
      .refuse ("unmatched " ++ (if q == '"' then "double" else "single") ++
        " quote; by default quotes are special to xargs unless you use the -0 option") 1
    | .ok lines => .each lines (a.has 't')

/-- The arguments of the program that gives others arguments from its input. -/
def inputArguments (args : List String) : Tool.Arguments :=
  let names := [("null", '0'), ("no-run-if-empty", 'r'), ("verbose", 't'), ("max-args", 'n'),
    ("max-procs", 'P'), ("delimiter", 'd'), ("replace", 'I'), ("max-lines", 'L'), ("arg-file", 'a'),
    ("exit", 'x')]
  Tool.readArguments ['r', '0', 't', 'x', 'p'] ['n', 'I', 'd', 'L', 'P', 's', 'a', 'E']
    false {} none
    (Tool.spellOut names args)

/-! ### Limits -/

/-- Limits the time of a program. -/
def limited (name : String) (env : List (String × String)) (args : List String) : Plan :=
  let names := [("signal", 's'), ("kill-after", 'k'), ("preserve-status", 'p'), ("foreground", 'f'),
    ("verbose", 'v')]
  let a := Tool.readArguments ['p', 'f', 'v'] ['s', 'k'] false {} none (Tool.spellOut names args)
  let help := "Try '" ++ name ++ " --help' for more information."
  match a.unknown, (a.value? 'k').filter fun s => !Tool.isSpan s, a.others with
  | some c, _, _ => misuse name ("invalid option -- '" ++ String.singleton c ++ "'") 125
  | none, some s, _ => misuse name ("invalid time interval " ++ Tool.cited s) 125
  | none, none, [] | none, none, [_] => .refuse help 125
  | none, none, span :: program :: rest =>
    match Tool.milliseconds? span with
    | none => misuse name ("invalid time interval " ++ Tool.cited span) 125
    | some 0 => .once program rest env none
    | some span =>
      match (a.value? 's').map fun s => (s, signal? s) with
      | some (s, none) => misuse name (Tool.cited s ++ ": invalid signal") 125
      | signal =>
        .timed program rest env {
          span, signal := (signal.bind Prod.snd).getD endSignal
          grace := (a.value? 'k').bind Tool.milliseconds?, keepsStatus := a.has 'p' }

/-- Changes how urgent a program is, or tells it. -/
def ranked (name : String) (env : List (String × String)) : List String → Plan
  | [] => .print "0\n"
  | "-n" :: n :: rest =>
    if (Tool.number? (if n.startsWith "-" then (n.drop 1).toString else n)).isNone then
      .refuse ("invalid adjustment " ++ Tool.cited n) 125
    else
      match rest with
      | [] => misuse name "a command must be given with an adjustment" 125
      | program :: more => .once program more env none
  | s :: rest =>
    match s.toList with
    | '-' :: cs =>
      if !cs.isEmpty && cs.all fun c => c.isDigit || c == '-' || c == 'n' || c == '+' then
        match rest with
        | [] => misuse name "a command must be given with an adjustment" 125
        | program :: more => .once program more env none
      else if s.startsWith "--" then misuse name ("unrecognized option '" ++ s ++ "'") 125
      else misuse name ("invalid option -- '" ++ String.ofList (cs.take 1) ++ "'") 125
    | _ => .once s rest env none

/-- Starts a program without further ado, after options. -/
def plain (name : String) (env : List (String × String)) (args : List String) : Plan :=
  match args.dropWhile fun s => s.startsWith "-" with
  | [] => misuse name "missing operand" 125
  | program :: rest => .once program rest env none

end Plan

/-- The plan of a program that starts others, which was called by a name. `input` is what it can
read, or the file that it is told to read. -/
def plan (program called : String) (args : List String) (env : List (String × String))
    (input : String) : Plan :=
  match program with
  | "env" => Plan.fromVariables called ⟨env, none, "\n"⟩ none (Plan.splitFirst args)
  | "xargs" => Plan.fromInput called (Plan.inputArguments args) input
  | "timeout" => Plan.limited called env args
  | "nice" => Plan.ranked called env args
  | _ => Plan.plain called env args

end AstCompare.Shell
