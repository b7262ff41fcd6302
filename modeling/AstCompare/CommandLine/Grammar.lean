import AstCompare.Dump

/-!
# What may stand on a command line

A command line is read level by level: the program itself, then the command it names, and so on. A
level has options, at most one positional argument, and commands of the level below.

## Main definitions

* `ValueKind`: which texts are values.
* `Option.Effect`, `OptionSpec`: options and what they do.
* `Level`: options, positional argument and commands of one level.
* `grammar`: the levels of this program.
-/

namespace AstCompare.CommandLine

/-- The kinds of values. -/
inductive ValueKind where
  | path
  | part
  | shell
  deriving DecidableEq, Repr

/-- The shells that have completion scripts. -/
def shells : List String :=
  ["bash", "elvish", "fish", "powershell", "zsh"]

/-- Why a command line is not carried out. -/
inductive ArgumentError where
  /-- An option that is not known here, or a word too many. -/
  | unknownArgument
  /-- A command that is not known here. -/
  | unknownCommand
  /-- A value that is missing, empty or not among the possible ones. -/
  | invalidValue
  /-- A value that its kind refuses. -/
  | refusedValue
  /-- An option that was given before. -/
  | repeatedOption
  /-- A value for an option that takes none. -/
  | unwantedValue
  /-- The positional argument is missing. -/
  | missingArgument
  /-- A command is missing. -/
  | missingCommand
  /-- Nothing was given where a command is needed. -/
  | nothingGiven
  /-- Help was asked for. -/
  | help
  /-- The version was asked for, at the level that these commands lead to. -/
  | version (commands : List String)
  deriving DecidableEq, Repr

/-- The complaint about a value, if it is not one of its kind. -/
def ValueKind.check (s : String) : ValueKind → Option ArgumentError
  | path => if s.isEmpty then some .invalidValue else none
  | part => if (Section.ofName? s).isNone then some .refusedValue else none
  | shell => if s ∈ shells then none else some .invalidValue

/-- What an option does. -/
inductive Effect where
  | count
  | flag
  | value (kind : ValueKind)
  | help
  | version
  deriving DecidableEq, Repr

/-- An option: its long name, by which it is also known to the rest of the program, and its
letter. -/
structure OptionSpec where
  name : String
  letter : Option Char
  effect : Effect
  deriving DecidableEq, Repr

/-- One level of a command line. -/
inductive Level where
  | mk (options : List OptionSpec) (argument : Option ValueKind) (commands : List (String × Level))
    (needsCommand : Bool)

namespace Level

/-- The options of a level. -/
def options : Level → List OptionSpec
  | mk os _ _ _ => os

/-- The positional argument of a level. -/
def argument : Level → Option ValueKind
  | mk _ a _ _ => a

/-- The commands of a level. -/
def commands : Level → List (String × Level)
  | mk _ _ cs _ => cs

/-- The level cannot stand without a command. -/
def needsCommand : Level → Bool
  | mk _ _ _ n => n

/-- The option with that long name. -/
def long? (l : Level) (name : String) : Option OptionSpec :=
  l.options.find? fun o => o.name == name

/-- The option with that letter. -/
def letter? (l : Level) (c : Char) : Option OptionSpec :=
  l.options.find? fun o => o.letter == some c

/-- The command of that name. -/
def command? (l : Level) (name : String) : Option Level :=
  l.commands.lookup name

end Level

/-- The options that every level has. -/
def commonOptions : List OptionSpec :=
  [⟨"debug", some 'd', .count⟩, ⟨"config-dir", some 'C', .value .path⟩, ⟨"help", some 'h', .help⟩,
    ⟨"version", some 'V', .version⟩]

/-- A level without commands. -/
def leafLevel (options : List OptionSpec) (argument : Option ValueKind) : Level :=
  .mk (options ++ commonOptions) argument [] false

/-- The option that names a section. -/
def partOption : OptionSpec :=
  ⟨"section", some 's', .value .part⟩

/-- The name of the command that explains commands. -/
def helpCommand : String := "help"

/-- A level with commands, one of which explains the others. -/
def branchLevel (commands : List (String × Level)) (needsCommand : Bool) : Level :=
  .mk commonOptions none (commands ++ [(helpCommand, leafLevel [] none)]) needsCommand

/-- The levels of this program. -/
def grammar : Level :=
  branchLevel
    [("compare", leafLevel
        [⟨"output-dir", some 'o', .value .path⟩, ⟨"fixed-names", none, .flag⟩] (some .path)),
      ("diff", leafLevel [] (some .path)),
      ("tree", leafLevel [partOption, ⟨"plain", none, .flag⟩] (some .path)),
      ("dot", leafLevel [partOption] (some .path)),
      ("config", branchLevel
        [("show", leafLevel [] none), ("path", leafLevel [] none), ("template", leafLevel [] none)]
        true),
      ("info", leafLevel [] none),
      ("completion", leafLevel [] (some .shell))]
    false

end AstCompare.CommandLine
