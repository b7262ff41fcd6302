/-!
# The environment of a run

The environment holds named texts, each as one line: the name, an equals sign and the value. A name
is looked for as the beginning of a line up to an equals sign, so a name that itself has an equals
sign reaches into a value. The home directory is the variable `HOME`, unless that is missing or
empty; then the account of the user says where it is.

## Main definitions

* `Environment.get?`: the value of a variable.
* `Environment.home?`: the home directory.
-/

namespace AstCompare

/-- The variables in the order in which they were set, and the home directory of the account. -/
structure Environment where
  bindings : List (String × String) := []
  accountHome : Option String := none
  deriving DecidableEq, Repr

namespace Environment

/-- What follows a name and an equals sign in a line that starts with both. -/
def after? : List Char → List Char → Option (List Char)
  | [], '=' :: value => some value
  | c :: name, d :: cs => if c = d then after? name cs else none
  | _, _ => none

/-- The value of a variable. -/
def get? (e : Environment) (name : String) : Option String :=
  e.bindings.findSome? fun (key, value) =>
    (after? name.toList (key.toList ++ '=' :: value.toList)).map String.ofList

/-- The value of a variable that is not empty. -/
def nonempty? (e : Environment) (name : String) : Option String :=
  (e.get? name).filter fun s => !s.isEmpty

/-- The home directory. -/
def home? (e : Environment) : Option String :=
  e.nonempty? "HOME" <|> e.accountHome

end Environment

end AstCompare
