import AstCompare.CommandLine.Grammar

/-!
# Reading a command line

Words are read from left to right. A word that names a command of the present level leads to the
level below; every other word is an option, the value of the option before it, or the positional
argument. After a lone pair of hyphens no word is an option or a command any more.

A value is looked at only when the next option is met or when the level ends, and a level ends after
all levels below it have been read. So of two mistakes the one reported first is not always the one
further to the left: a word that cannot be placed at all is reported before a bad value that is
still waiting.

## Main definitions

* `Found`: what was given at one level.
* `State`: a level while it is read.
* `read`: what was given at each level, from the outermost inwards, or the first complaint.
-/

namespace AstCompare.CommandLine

/-- What was given at one level: its name, the values of options, the flags with the number of their
occurrences, and the positional argument. -/
structure Found where
  command : String
  values : List (String × String) := []
  flags : List (String × Nat) := []
  argument : Option String := none
  deriving DecidableEq, Repr

namespace Found

/-- The option has been given. -/
def has (f : Found) (name : String) : Bool :=
  (f.values.lookup name).isSome || (f.flags.lookup name).isSome

/-- Nothing has been given. -/
def isEmpty (f : Found) : Bool :=
  f.values.isEmpty && f.flags.isEmpty && f.argument.isNone

/-- The number of times a flag was given. -/
def times (f : Found) (name : String) : Nat :=
  (f.flags.lookup name).getD 0

end Found

/-- What waits for its value to be looked at: an option with the value that it may have got already,
or the positional argument. -/
inductive Pending where
  | option (name : String) (kind : ValueKind) (value : Option String)
  | argument (kind : ValueKind) (value : String)
  deriving DecidableEq, Repr

/-- A level while it is read. -/
structure State where
  found : Found
  pending : Option Pending := none
  /-- The next word is the value of the pending option, unless it is itself an option. -/
  awaiting : Bool := false
  /-- The rest of the words are positional. -/
  positional : Bool := false
  /-- The positional argument has been met. -/
  argumentMet : Bool := false

/-- The greatest count. -/
def maxCount : Nat := 255

namespace State

/-- Looks at the value that waits. -/
def settle (s : State) : Except ArgumentError State :=
  match s.pending with
  | none => .ok s
  | some (.option _ _ none) => .error .invalidValue
  | some (.option name kind (some v)) =>
    if s.found.has name then .error .repeatedOption
    else
      match kind.check v with
      | some e => .error e
      | none =>
        .ok { s with
          pending := none, found := { s.found with values := (name, v) :: s.found.values } }
  | some (.argument kind v) =>
    match kind.check v with
    | some e => .error e
    | none => .ok { s with pending := none, found := { s.found with argument := some v } }

/-- Counts an occurrence of an option. -/
def countUp (s : State) (name : String) : State :=
  { s with
    awaiting := false
    found := { s.found with
      flags := (name, min maxCount (s.found.times name + 1)) ::
        s.found.flags.filter fun e => e.1 != name } }

/-- Carries out an option without a value. -/
def react (s : State) (path : List String) (o : OptionSpec) : Except ArgumentError State := do
  let s ← s.settle
  match o.effect with
  | .help => .error .help
  | .version => .error (.version path)
  | .flag => if s.found.has o.name then .error .repeatedOption else .ok (s.countUp o.name)
  | _ => .ok (s.countUp o.name)

/-- Carries out an option with the value that stands in the same word, or makes it wait for the next
word. -/
def takeValue (s : State) (o : OptionSpec) (kind : ValueKind) (attached : Option String) :
    Except ArgumentError State := do
  let s ← s.settle
  match attached with
  | some v => ({ s with pending := some (.option o.name kind (some v)), awaiting := false }).settle
  | none => .ok { s with pending := some (.option o.name kind none), awaiting := true }

/-- Reads a word that starts with two hyphens, given what follows them. -/
def readLong (s : State) (l : Level) (path : List String) (word : List Char) :
    Except ArgumentError State :=
  let name := word.takeWhile (· != '=')
  let attached := match word.dropWhile (· != '=') with
    | [] => none
    | _ :: v => some (String.ofList v)
  match l.long? (String.ofList name) with
  | none => .error .unknownArgument
  | some o =>
    match o.effect, attached with
    | .value kind, _ => s.takeValue o kind attached
    | _, some _ => .error .unwantedValue
    | _, none => s.react path o

/-- The value that stands in the same word as its letter: an equals sign in front of it is left out,
and if nothing follows there is none. -/
def attachedValue : List Char → Option String
  | [] => none
  | '=' :: v => some (String.ofList v)
  | v => some (String.ofList v)

/-- Reads the letters of a word that starts with one hyphen. -/
def readLetters (s : State) (l : Level) (path : List String) :
    List Char → Except ArgumentError State
  | [] => .ok s
  | c :: cs =>
    match l.letter? c with
    | none => .error .unknownArgument
    | some o =>
      match o.effect with
      | .value kind => s.takeValue o kind (attachedValue cs)
      | _ =>
        match s.react path o with
        | .error e => .error e
        | .ok s => readLetters s l path cs

/-- Takes a word as the value that is waited for. -/
def takeWord (s : State) (word : String) : State :=
  match s.pending with
  | some (.option name kind _) =>
    { s with pending := some (.option name kind (some word)), awaiting := false }
  | _ => { s with awaiting := false }

/-- The complaint about a word that has no place. Where a command may stand, it is taken for a
command that nobody knows, unless it names one and is only kept from being read as such. -/
def misplaced (l : Level) (word : String) : ArgumentError :=
  if l.commands.isEmpty || (l.command? word).isSome then .unknownArgument else .unknownCommand

/-- Takes a word as the positional argument. -/
def takeArgument (s : State) (l : Level) (word : String) : Except ArgumentError State :=
  match l.argument with
  | some kind =>
    if s.argumentMet then .error (misplaced l word)
    else do
      let s ← s.settle
      .ok { s with
        pending := some (.argument kind word), awaiting := false, argumentMet := true }
  | none => .error (misplaced l word)

/-- Reads a word that names no command. -/
def readWord (s : State) (l : Level) (path : List String) (word : String) :
    Except ArgumentError State :=
  if s.positional then s.takeArgument l word
  else
    match word.toList with
    | ['-', '-'] => .ok { s with positional := true }
    | '-' :: '-' :: rest => s.readLong l path rest
    | '-' :: c :: rest => s.readLetters l path (c :: rest)
    | _ => if s.awaiting then .ok (s.takeWord word) else s.takeArgument l word

/-- Ends a level. -/
def finish (s : State) (l : Level) (hasCommand : Bool) : Except ArgumentError Found := do
  let s ← s.settle
  if l.needsCommand && !hasCommand then
    .error (if s.found.isEmpty then .nothingGiven else .missingCommand)
  else if l.argument.isSome && s.found.argument.isNone then .error .missingArgument
  else .ok s.found

end State

/-- The answer to the command that explains commands: the words after it have to lead to one. -/
def explain (l : Level) : List String → ArgumentError
  | [] => .help
  | word :: words =>
    match l.command? word with
    | some l' => explain l' words
    | none => .unknownCommand

/-- Reads the words of a level and of those below it. -/
def readLevel (l : Level) (path : List String) (s : State) :
    List String → Except ArgumentError (List Found)
  | [] => (s.finish l false).map fun f => [f]
  | word :: words =>
    if s.positional || s.awaiting then
      match s.readWord l path word with
      | .error e => .error e
      | .ok s => readLevel l path s words
    else
      match l.command? word with
      | some l' =>
        if word = helpCommand then .error (explain l words)
        else
          match readLevel l' (path ++ [word]) { found := { command := word } } words with
          | .error e => .error e
          | .ok inner => (s.finish l true).map fun f => f :: inner
      | none =>
        match s.readWord l path word with
        | .error e => .error e
        | .ok s => readLevel l path s words

/-- Reads a command line. -/
def read (words : List String) : Except ArgumentError (List Found) :=
  readLevel grammar [] { found := { command := "" } } words

end AstCompare.CommandLine
