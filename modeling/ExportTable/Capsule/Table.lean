import ExportTable.Text.Quoted

/-!
# Tables of addresses

A table is filled slot by slot and then finished; after that it never changes. An initializer may
write anything into its slots, so only `UnfinishedTable.finish` sees to it that none is left empty.
-/

namespace ExportTable.Capsule

/-- The address of an exported function; zero is the null address. -/
abbrev Address := UInt64

inductive Error where
  | emptyKey
  | invalidKey
  | alreadyPublished (key : String)
  | notPublished (key : String)
  | indexOutOfRange (index size : Nat)
  | nullAddress (index : Nat)
  | incomplete (index : Nat)
  deriving DecidableEq, Repr

def Error.message : Error → String
  | emptyKey => "capsule key cannot be empty"
  | invalidKey => "capsule key is not valid UTF-8"
  | alreadyPublished key => s!"a table is already published under {Text.quoted key}"
  | notPublished key => s!"no table is published under {Text.quoted key}"
  | indexOutOfRange index size => s!"slot {index} is out of range for a table of {size} entries"
  | nullAddress index => s!"slot {index} cannot hold a null pointer"
  | incomplete index => s!"slot {index} was never set"

structure Table where
  slots : List Address
  deriving DecidableEq, Repr

namespace Table

def size (table : Table) : Nat := table.slots.length

def isEmpty (table : Table) : Bool := table.slots.isEmpty

def get? (table : Table) (index : Nat) : Option Address := table.slots[index]?

def addressText (address : Address) : String :=
  "0x" ++ String.ofList (Text.hexDigits address.toNat)

def text (table : Table) : String :=
  "[" ++ ", ".intercalate (table.slots.map addressText) ++ "]"

end Table

/-- A table whose slots may still be null. -/
structure UnfinishedTable where
  slots : List Address
  deriving DecidableEq, Repr

namespace UnfinishedTable

def ofSize (size : Nat) : UnfinishedTable := ⟨List.replicate size 0⟩

def size (table : UnfinishedTable) : Nat := table.slots.length

/-- Writes a slot without a look at it. There is no slot past the end. -/
def write (table : UnfinishedTable) (index : Nat) (address : Address) : UnfinishedTable :=
  ⟨table.slots.set index address⟩

theorem size_write (table : UnfinishedTable) (index : Nat) (address : Address) :
    (table.write index address).size = table.size := List.length_set

/-- The writes of an initializer, one after the other. -/
def writeAll (table : UnfinishedTable) (writes : List (Nat × Address)) : UnfinishedTable :=
  writes.foldl (fun table (index, address) ↦ table.write index address) table

theorem size_writeAll (table : UnfinishedTable) (writes : List (Nat × Address)) :
    (table.writeAll writes).size = table.size := by
  induction writes generalizing table with
  | nil => rfl
  | cons write rest ih => exact (ih _).trans (size_write table write.1 write.2)

/-- A null address is refused first, whatever the index. -/
def set (table : UnfinishedTable) (index : Nat) (address : Address) :
    Except Error UnfinishedTable :=
  if address = 0 then .error (.nullAddress index)
  else if index < table.size then .ok (table.write index address)
  else .error (.indexOutOfRange index table.size)

/-- The table, if no slot is null; otherwise the first slot that is. -/
def finish (table : UnfinishedTable) : Except Error Table :=
  match table.slots.findIdx? (· = 0) with
  | some index => .error (.incomplete index)
  | none => .ok ⟨table.slots⟩

end UnfinishedTable

end ExportTable.Capsule
