import AstCompare.Toml.Value

/-!
# How tables are built up

A document opens tables by headers and fills them by keys, and both may be dotted. Which of these
may meet is decided by how a table came about:

* A table that was only passed through by a header is *implicit*: a later header may still open it.
* A table that was passed through by a dotted key is *dotted*: more dotted keys may reach it, no
  header may.
* A table that a header opened, or that was written between braces, is neither.

Of an array of tables, headers and dotted keys reach the last table.

## Main definitions

* `Item`, `Entries`: a table while it is built.
* `assign`: an entry by a dotted key.
* `openTable`, `openArray`: the effect of a header.
* `Item.toValue`: the finished value.
-/

namespace AstCompare.Toml

/-- What a name stands for while a table is built. -/
inductive Item where
  | value (v : Value)
  | table (implicit dotted : Bool) (entries : List (String × Item))
  /-- An array of tables, the latest first. -/
  | tables (items : List (List (String × Item)))

/-- The names of a table in the order in which they came. -/
abbrev Entries := List (String × Item)

/-- The entries with the one of that name exchanged, or added at the end. -/
def Entries.put (name : String) (item : Item) : Entries → Entries
  | [] => [(name, item)]
  | (n, i) :: rest =>
    if n = name then (name, item) :: rest else (n, i) :: Entries.put name item rest

/-- Changes the table at the end of a path. Missing tables are made on the way; `byKey` tells that
the path is that of a dotted key, which may not pass through a table that was opened otherwise. The
change is told whether the table is a dotted one. -/
def changeAt (byKey : Bool) (dotted : Bool) (entries : Entries) :
    List String → (Bool → Entries → Option Entries) → Option Entries
  | [], change => change dotted entries
  | name :: path, change =>
    match entries.lookup name with
    | none =>
      (changeAt byKey byKey [] path change).map fun es => entries.put name (.table true byKey es)
    | some (.value _) => none
    | some (.table implicit d es) =>
      if byKey && !implicit then none
      else
        (changeAt byKey d es path change).map fun es => entries.put name (.table implicit d es)
    | some (.tables []) => none
    | some (.tables (latest :: earlier)) =>
      (changeAt byKey false latest path change).map fun es =>
        entries.put name (.tables (es :: earlier))

/-- Enters a value under a dotted key, given as its path and its last name. The name has to be new,
and a path has to end in a dotted table. -/
def assign (entries : Entries) (path : List String) (name : String) (v : Value) : Option Entries :=
  changeAt true false entries path fun dotted es =>
    if dotted == path.isEmpty then none
    else if (es.lookup name).isSome then none
    else some (es.put name (.value v))

/-- Opens the table of a header, which has to be new or implicit. -/
def openTable (entries : Entries) (path : List String) (name : String) : Option Entries :=
  changeAt false false entries path fun _ es =>
    match es.lookup name with
    | none => some (es.put name (.table false false []))
    | some (.table true false inner) => some (es.put name (.table false false inner))
    | some _ => none

/-- Adds a table to the array of a header, which has to be new or an array of tables. -/
def openArray (entries : Entries) (path : List String) (name : String) : Option Entries :=
  changeAt false false entries path fun _ es =>
    match es.lookup name with
    | none => some (es.put name (.tables [[]]))
    | some (.tables items) => some (es.put name (.tables ([] :: items)))
    | some _ => none

/-- Enters a value into the table that the last header opened. -/
def assignIn (entries : Entries) (current : List String) (path : List String) (name : String)
    (v : Value) : Option Entries :=
  changeAt false false entries current fun _ es => assign es path name v

mutual

/-- The finished value of an item. -/
def Item.toValue : Item → Value
  | .value v => v
  | .table _ _ entries => .table (entriesToValues entries)
  | .tables items => .array (tablesToValues items).reverse

/-- The finished entries of a table. -/
def entriesToValues : List (String × Item) → List (String × Value)
  | [] => []
  | (name, item) :: rest => (name, item.toValue) :: entriesToValues rest

/-- The finished tables of an array. -/
def tablesToValues : List (List (String × Item)) → List Value
  | [] => []
  | entries :: rest => .table (entriesToValues entries) :: tablesToValues rest

end

end AstCompare.Toml
