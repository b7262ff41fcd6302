/-!
# Shell scripts

A layout program may be a script. A script is a sequence of commands, and a command is a simple one,
made of words, or one that joins others: by pipes, by conditions, in groups, branches, loops and
choices, or as the body of a function.

A word is made of parts: text, parameters, commands whose output is wanted, and sums. A part knows
whether it stands between quotes, because only what does not is cut into fields and read as a
pattern.

## Main definitions

* `Part`, `Word`, `Use`: words, and what is done with the value of a parameter.
* `Redirect`: where a stream leads.
* `Command`: commands.
-/

namespace AstCompare.Shell

/-- How a file is opened. -/
inductive Opening where
  | read
  | write
  /-- Like `write`, also where files are kept from being overwritten. -/
  | clobber
  | append
  | readWrite
  deriving DecidableEq, Repr

mutual

/-- A part of a word. -/
inductive Part where
  | text (s : List Char) (quoted : Bool)
  | parameter (name : String) (use : Use) (quoted : Bool)
  /-- What a command prints. -/
  | output (body : Command) (quoted : Bool)
  /-- The value of a sum, whose text is made of parts. -/
  | sum (parts : List Part) (quoted : Bool)

/-- What is done with the value of a parameter. With `orEmpty` an empty value counts as none. -/
inductive Use where
  | plain
  | length
  /-- A word in place of a missing value. -/
  | fallback (orEmpty : Bool) (word : List Part)
  /-- A word in place of a missing value, which it becomes. -/
  | assign (orEmpty : Bool) (word : List Part)
  /-- A complaint about a missing value. -/
  | demand (orEmpty : Bool) (word : List Part)
  /-- A word in place of a value. -/
  | alternative (orEmpty : Bool) (word : List Part)
  /-- The value without its shortest or longest beginning that fits a pattern. -/
  | trimFront (longest : Bool) (pattern : List Part)
  /-- The value without its shortest or longest end that fits a pattern. -/
  | trimBack (longest : Bool) (pattern : List Part)
  /-- What cannot be done. -/
  | wrong

/-- Where a stream leads. -/
inductive Redirect where
  | file (fd : Nat) (opening : Opening) (path : List Part)
  /-- To where another stream leads, or nowhere. -/
  | copy (fd : Nat) (source : List Part)
  /-- To a text within the script, which is known by its number. -/
  | document (fd : Nat) (number : Nat)

/-- One command. The lines are those on which it starts. -/
inductive Command where
  | nothing
  /-- Words that name a program and its arguments, with assignments before them. -/
  | simple (line : Nat) (assignments : List (String × List Part)) (words : List (List Part))
    (redirects : List Redirect)
  /-- Commands whose output is the input of the next. -/
  | pipe (commands : List Command)
  | negation (body : Command)
  | both (first second : Command)
  | either (first second : Command)
  | sequence (commands : List Command)
  /-- A command that is not waited for. -/
  | background (line : Nat) (body : Command)
  /-- A command with a state of its own. -/
  | subshell (line : Nat) (body : Command) (redirects : List Redirect)
  | redirected (line : Nat) (body : Command) (redirects : List Redirect)
  | branch (condition body : Command) (otherwise : Option Command)
  /-- The body as long as the condition ends with success, or with failure if `negated` is set. -/
  | loop (negated : Bool) (condition body : Command)
  /-- The body for each field of some words, or for each argument. -/
  | each (line : Nat) (name : String) (items : Option (List (List Part))) (body : Command)
  /-- The body after the first pattern that fits. -/
  | choose (line : Nat) (subject : List Part) (arms : List (List (List Part) × Command))
  | define (line : Nat) (name : String) (body : Command)

end

/-- A word is made of parts that stand side by side. -/
abbrev Word := List Part

instance : Inhabited Command := ⟨.nothing⟩

/-- A letter or an underscore, as names start. -/
def isNameStart (c : Char) : Bool :=
  c.isAlpha || c == '_'

/-- A character of a name. -/
def isNameChar (c : Char) : Bool :=
  c.isAlphanum || c == '_'

/-- The text is a name. -/
def isName (s : String) : Bool :=
  match s.toList with
  | c :: cs => isNameStart c && cs.all isNameChar
  | [] => false

/-- The commands of the shell whose names cannot be given to functions, and whose failure ends a
script. -/
def specialBuiltins : List String :=
  [".", ":", "break", "continue", "eval", "exec", "exit", "export", "local", "readonly", "return",
    "set", "shift", "times", "trap", "unset"]

/-- The parameters that are named by one sign. -/
def isSign (c : Char) : Bool :=
  c.isDigit || ['@', '*', '#', '?', '-', '$', '!'].contains c

/-- The text of a word that is nothing but bare text. -/
def Word.bare? : Word → Option String
  | [.text cs false] => some (String.ofList cs)
  | _ => none

/-- The word has quotes. -/
def Word.isQuoted (w : Word) : Bool :=
  w.any fun p => match p with
    | .text _ quoted | .parameter _ _ quoted | .output _ quoted | .sum _ quoted => quoted

/-- The assignment that a word describes: a bare name and an equals sign at its beginning. -/
def Word.assignment? : Word → Option (String × Word)
  | .text cs false :: rest =>
    match cs.takeWhile isNameChar, cs.dropWhile isNameChar with
    | c :: name, '=' :: value =>
      if isNameStart c then
        some (String.ofList (c :: name), if value.isEmpty then rest else .text value false :: rest)
      else none
    | _, _ => none
  | _ => none

end AstCompare.Shell
