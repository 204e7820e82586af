/-!
# TOML items and tables

A document is a table of items. How a table came about decides how it may be extended: a header gives
a table once, the tables on the way to a header exist until a header of their own gives them, dotted
keys extend the tables that dotted keys made, and an inline table is complete.
-/

namespace ExportTable.Toml

inductive TableForm where
  /-- Given by a header of its own, or the document itself. -/
  | header
  /-- On the way to the table of some header. -/
  | parent
  /-- Made by dotted keys. -/
  | dotted
  | inline
  deriving DecidableEq, Repr

/-- Floats and dates are items without a value that a configuration could use. -/
inductive Item where
  | string (s : String)
  | integer (i : Int)
  | boolean (b : Bool)
  | float
  | dateTime
  | array (items : List Item)
  | table (form : TableForm) (entries : List (String × Item))
  /-- The tables of the headers in double brackets, the latest last; not empty. -/
  | tables (earlier : List (List (String × Item))) (latest : List (String × Item))
  deriving Repr

/-- Whether a container holds nothing. -/
def Item.isEmpty : Item → Bool
  | table _ entries => entries.isEmpty
  | array items => items.isEmpty
  | _ => false

/-- The entries of a table stand in the order in which they were made. -/
structure Table where
  form : TableForm
  entries : List (String × Item) := []
  deriving Repr

namespace Table

def item (t : Table) : Item := .table t.form t.entries

def find? (t : Table) (key : String) : Option Item := t.entries.lookup key

/-- Appends an entry whose key is new. -/
def append (t : Table) (key : String) (item : Item) : Table :=
  { t with entries := t.entries ++ [(key, item)] }

/-- Puts an item in the place of the one that the key has. -/
def replace (t : Table) (key : String) (item : Item) : Table :=
  { t with entries := t.entries.map fun (k, old) ↦ if k = key then (k, item) else (k, old) }

def remove (t : Table) (key : String) : Table :=
  { t with entries := t.entries.filter (·.1 ≠ key) }

/-- Changes the table at the end of a path, which starts at `t`. Tables that the path lacks are made
with the form `made`. A path goes to the latest one of several tables. The path of dotted keys does
not enter a table that has its own header. -/
def within (made : TableForm) (change : Table → Option Table) : List String → Table → Option Table
  | [], t => change t
  | key :: path, t =>
    match t.find? key with
    | none => (within made change path ⟨made, []⟩).map fun inner ↦ t.append key inner.item
    | some (.table form entries) =>
      if form = .inline ∨ (made = .dotted ∧ form = .header) then none
      else (within made change path ⟨form, entries⟩).map fun inner ↦ t.replace key inner.item
    | some (.tables earlier latest) =>
      (within made change path ⟨.header, latest⟩).map fun inner ↦
        t.replace key (.tables earlier inner.entries)
    | some _ => none

/-- Gives a new key an item. -/
def insertNew (key : String) (item : Item) (t : Table) : Option Table :=
  match t.find? key with
  | none => some (t.append key item)
  | some _ => none

/-- Gives a dotted key an item. Dotted keys do not extend a table that a header made. -/
def assign (path : List String) (key : String) (item : Item) (t : Table) : Option Table :=
  match path with
  | [] => insertNew key item t
  | _ => within .dotted (fun t ↦ if t.form = .dotted then insertNew key item t else none) path t

/-- Starts the table of a header. A table that so far was on the way to others moves to the end. -/
def openTable (path : List String) (key : String) : Table → Option Table :=
  within .parent (fun t ↦
    match t.find? key with
    | none => some (t.append key (.table .header []))
    | some (.table .parent entries) => some ((t.remove key).append key (.table .header entries))
    | some _ => none) path

/-- Starts one more of the tables of a header in double brackets. -/
def openNext (path : List String) (key : String) : Table → Option Table :=
  within .parent (fun t ↦
    match t.find? key with
    | none => some (t.append key (.tables [] []))
    | some (.tables earlier latest) => some (t.replace key (.tables (earlier ++ [latest]) []))
    | some _ => none) path

end Table

end ExportTable.Toml
