/-!
# Opcodes and element types

Both come from tables that are written by hand. An opcode has an internal name and accepts rows of
type tags, one tag for each operand. An element type gives a tag its native name, if there is one.
-/

namespace ExportTable

structure Opcode where
  /-- With the internal prefix, such as `BH_ADD`. -/
  name : String
  id : Nat
  /-- The number of operands, the result included. -/
  operands : Nat
  elementwise : Bool
  /-- A system opcode has no public operation. -/
  isSystem : Bool
  /-- The accepted rows of type tags. -/
  rows : List (List String)
  deriving DecidableEq, Repr

structure ElementType where
  tag : String
  native : String
  deriving DecidableEq, Repr

namespace ElementType

/-- Written in the table for a type without a native equivalent. -/
def unknownName : String := "unknown"

def nativeName? (t : ElementType) : Option String :=
  if t.native = "" ∨ t.native = unknownName then none else some t.native

/-- The native names of a table, in its order. -/
def supported (types : List ElementType) : List String := types.filterMap nativeName?

/-- The first native name of a tag. -/
def nativeOf? (types : List ElementType) (tag : String) : Option String :=
  types.findSome? fun t ↦ if t.tag = tag then t.nativeName? else none

end ElementType

/-- The opcodes that become operations. -/
def Opcode.public (opcodes : List Opcode) : List Opcode := opcodes.filter (!·.isSystem)

end ExportTable
