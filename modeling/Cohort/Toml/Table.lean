import Cohort.Document.Basic

/-! # Tables of a TOML document while it is read -/

namespace Cohort.Toml

/-- How a table came to be. -/
inductive Standing where
  /-- By a header of its own; also the root, and each item of an array of tables. -/
  | declared
  /-- On the way to another table of a header. -/
  | implied
  /-- On the way of a dotted key. -/
  | dotted
deriving DecidableEq, Repr

/-- An entry of a table. -/
inductive Entry where
  | value (d : Document)
  | table (standing : Standing) (entries : List (String × Entry))
  | tables (items : List (List (String × Entry)))

/-- The entries of a table. -/
abbrev Entries := List (String × Entry)

namespace Entries

/-- Sets the entry of a key, which keeps its place or goes to the end. -/
def put (entries : Entries) (key : String) (entry : Entry) : Entries :=
  match entries with
  | [] => [(key, entry)]
  | (name, old) :: rest =>
    if name = key then (key, entry) :: rest else (name, old) :: put rest key entry

/-- Changes the table at the end of a path, which leads through the last items of arrays and makes
tables where there are none. A dotted path (`dotted`) does not lead into a declared table. -/
def update (dotted : Bool) (change : Standing → Entries → Option Entries) :
    List String → Standing → Entries → Option Entries
  | [], standing, entries => change standing entries
  | key :: path, _, entries =>
    match List.lookup key entries with
    | none => do
      let standing := if dotted then .dotted else .implied
      return entries.put key (.table standing (← update dotted change path standing []))
    | some (.value _) => none
    | some (.table standing inner) => do
      if dotted && standing = .declared then none
      else return entries.put key (.table standing (← update dotted change path standing inner))
    | some (.tables items) =>
      match items.reverse with
      | [] => none
      | last :: before => do
        let last ← update dotted change path .declared last
        return entries.put key (.tables (last :: before).reverse)

/-- Adds a value under a key behind a dotted path. The key has to be new, and the path has to end in
a table of dotted keys. -/
def addValue (path : List String) (key : String) (d : Document) (standing : Standing)
    (entries : Entries) : Option Entries :=
  let add := fun (standing : Standing) (entries : Entries) =>
    if !path.isEmpty && standing ≠ .dotted then none
    else if (List.lookup key entries).isSome then none
    else some (entries.put key (.value d))
  entries.update true add path standing

/-- Declares a table. It may have been implied before, but not declared or made by dotted keys. -/
def addTable (path : List String) (key : String) (root : Entries) : Option Entries :=
  let declare := fun (_ : Standing) (entries : Entries) =>
    match List.lookup key entries with
    | none => some (entries.put key (.table .declared []))
    | some (.table .implied inner) => some (entries.put key (.table .declared inner))
    | some _ => none
  root.update false declare path .declared

/-- Adds an item to an array of tables. -/
def addItem (path : List String) (key : String) (root : Entries) : Option Entries :=
  let add := fun (_ : Standing) (entries : Entries) =>
    match List.lookup key entries with
    | none => some (entries.put key (.tables [[]]))
    | some (.tables items) => some (entries.put key (.tables (items ++ [[]])))
    | some _ => none
  root.update false add path .declared

end Entries

/-! ## Documents -/

mutual

/-- The document of an entry. -/
def Entry.toDocument : Entry → Document
  | .value d => d
  | .table _ entries => .obj (fieldsOf entries)
  | .tables items => .arr (itemsOf items)

/-- The fields of a table. -/
def fieldsOf : List (String × Entry) → List (String × Document)
  | [] => []
  | (key, entry) :: rest => (key, entry.toDocument) :: fieldsOf rest

/-- The items of an array of tables. -/
def itemsOf : List (List (String × Entry)) → List Document
  | [] => []
  | entries :: rest => .obj (fieldsOf entries) :: itemsOf rest

end

end Cohort.Toml
