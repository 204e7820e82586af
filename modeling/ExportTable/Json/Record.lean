import ExportTable.Json.Read

/-!
# Records

A record is an object of named fields, or an array of its fields in declaration order. Its
description is put together from fields: `Record.field` and `Record.fieldOr` describe one, and the
applicative operations join descriptions in declaration order.

The members of an object are read in order. A member of another name may have any value that keeps to
the grammar; a second member of one name is an error before its value is read. Fields that are left
out are reported at the end of the object, in declaration order.
-/

namespace ExportTable.Json

/-- What a text gives for the fields of a record. -/
structure Given where
  /-- Whether the fields have names. -/
  named : Bool
  values : List (String × Draft)

namespace Given

def find? (given : Given) (name : String) : Option Draft := given.values.lookup name

def field (name : String) (read : Reader α) (given : Given) : Except ReadError α :=
  match given.find? name with
  | some d => read d
  | none => .error (if given.named then .missingField name else .unfit)

def fieldOr (name : String) (default : α) (read : Reader α) (given : Given) : Except ReadError α :=
  match given.find? name with
  | some d => read d
  | none => .ok default

/-- A field that may be left out where fields have names. -/
def fieldIfNamed (name : String) (default : α) (read : Reader α) (given : Given) :
    Except ReadError α :=
  match given.find? name with
  | some d => read d
  | none => if given.named then .ok default else .error .unfit

end Given

/-- The description of a record: its fields, each with a check of its value, and how its value is
built once every given field has passed its check. -/
structure Record (α : Type) where
  fields : List (String × Reader Unit)
  build : Given → Except ReadError α

namespace Record

def check (read : Reader α) : Reader Unit := fun d ↦ (read d).map fun _ ↦ ()

def field (name : String) (read : Reader α) : Record α where
  fields := [(name, check read)]
  build := Given.field name read

/-- A field that may be left out. -/
def fieldOr (name : String) (default : α) (read : Reader α) : Record α where
  fields := [(name, check read)]
  build := Given.fieldOr name default read

def fieldIfNamed (name : String) (default : α) (read : Reader α) : Record α where
  fields := [(name, check read)]
  build := Given.fieldIfNamed name default read

instance : Applicative Record where
  pure a := ⟨[], fun _ ↦ .ok a⟩
  map f r := ⟨r.fields, fun given ↦ (r.build given).map f⟩
  seq f r := ⟨f.fields ++ (r ()).fields, fun given ↦ do
    let g ← f.build given
    let a ← (r ()).build given
    return g a⟩

/-- Checks members in order, the names in `seen` being given already, and collects the fields. -/
def collect (fields : List (String × Reader Unit)) (seen : List String) :
    List (Option String × Draft) → Except ReadError (List (String × Draft))
  | [] => .ok []
  | (none, _) :: _ => .error .unfit
  | (some name, value) :: members =>
    match fields.lookup name with
    | none => if value.isWhole then collect fields seen members else .error .unfit
    | some check => do
      if name ∈ seen then .error (.duplicateField name)
      check value
      let given ← collect fields (name :: seen) members
      return (name, value) :: given

def readMembers (r : Record α) (members : List (Option String × Draft)) (closed : Bool) :
    Except ReadError α := do
  let values ← collect r.fields [] members
  if closed then r.build ⟨true, values⟩ else .error .unfit

/-- Pairs items with fields, in order; there must be a field for each item. -/
def pair : List (String × Reader Unit) → List Draft → Except ReadError (List (String × Draft))
  | _, [] => .ok []
  | [], _ :: _ => .error .unfit
  | (name, check) :: fields, item :: items => do
    check item
    let given ← pair fields items
    return (name, item) :: given

def readItems (r : Record α) (items : List Draft) (closed : Bool) : Except ReadError α := do
  let values ← pair r.fields items
  if closed then r.build ⟨false, values⟩ else .error .unfit

def read (r : Record α) : Reader α
  | .object members closed => r.readMembers members closed
  | .array items closed => r.readItems items closed
  | _ => .error .unfit

end Record

end ExportTable.Json
