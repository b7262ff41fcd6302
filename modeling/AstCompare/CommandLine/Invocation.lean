import AstCompare.CommandLine.Reading

/-!
# What a command line asks for

## Main definitions

* `Command`, `Invocation`: the command and the options of all commands.
* `Invocation.ofWords`: what a command line asks for, or why it cannot be carried out.
-/

namespace AstCompare.CommandLine

/-- The commands about settings. -/
inductive SettingsCommand where
  | show
  | path
  | template
  deriving DecidableEq, Repr

/-- The commands. -/
inductive Command where
  | compare (input : String) (outputDir : Option String) (fixedNames : Bool)
  | diff (input : String)
  | tree (input : String) (part : Section) (plain : Bool)
  | dot (input : String) (part : Section)
  | config (command : SettingsCommand)
  | info
  | completion (shell : String)
  deriving DecidableEq, Repr

/-- A command with the options that all commands share. -/
structure Invocation where
  debug : Nat
  configDir : Option String
  command : Option Command
  deriving DecidableEq, Repr

/-- The section that an option names; the second one if there is no option. -/
def Found.part (f : Found) : Section :=
  ((f.values.lookup "section").bind Section.ofName?).getD .after

/-- The positional argument. -/
def Found.input (f : Found) : String :=
  f.argument.getD ""

/-- The command that the levels below the first describe. -/
def Command.ofLevels : List Found → Option Command
  | [] => none
  | f :: below =>
    match f.command with
    | "compare" =>
      some (.compare f.input (f.values.lookup "output-dir") (f.times "fixed-names" != 0))
    | "diff" => some (.diff f.input)
    | "tree" => some (.tree f.input f.part (f.times "plain" != 0))
    | "dot" => some (.dot f.input f.part)
    | "config" =>
      match below with
      | [⟨"show", _, _, _⟩] => some (.config .show)
      | [⟨"path", _, _, _⟩] => some (.config .path)
      | [⟨"template", _, _, _⟩] => some (.config .template)
      | _ => none
    | "info" => some .info
    | "completion" => some (.completion f.input)
    | _ => none

/-- What all levels together ask for: of options that every level has, the innermost level that
gives one counts. -/
def Invocation.ofLevels (levels : List Found) : Invocation where
  debug := (levels.reverse.findSome? fun f => f.flags.lookup "debug").getD 0
  configDir := levels.reverse.findSome? fun f => f.values.lookup "config-dir"
  command := Command.ofLevels levels.tail

/-- What a command line asks for. -/
def Invocation.ofWords (words : List String) : Except ArgumentError Invocation :=
  (read words).map Invocation.ofLevels

end AstCompare.CommandLine
