/-!
# TOML values

## Main definitions

* `Value`: what stands on the right of an equals sign, tables included.
* `Value.get?`: an entry of a table.
-/

namespace AstCompare.Toml

/-- A value. Of numbers with a fraction and of dates only the text is kept. -/
inductive Value where
  | string (s : String)
  | integer (n : Int)
  | float (text : String)
  | boolean (b : Bool)
  | dateTime (text : String)
  | array (items : List Value)
  | table (entries : List (String × Value))

/-- The entry of that name, if the value is a table and has one. -/
def Value.get? (name : String) : Value → Option Value
  | table entries => entries.lookup name
  | _ => none

end AstCompare.Toml
