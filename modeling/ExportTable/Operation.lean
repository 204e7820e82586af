import ExportTable.NameMap
import ExportTable.Opcode
import ExportTable.Text.Lowercase

/-!
# Operations

Compiling a table of opcodes gives the public operations by name. An operation's name is its opcode's
name without the internal prefix, in lower case. A row of type tags stays in an operation only if all
its tags have native names.
-/

namespace ExportTable

structure Operation where
  name : String
  id : Nat
  operands : Nat
  elementwise : Bool
  /-- The accepted rows of native type names. -/
  rows : List (List String)
  deriving DecidableEq, Repr

inductive CompileError where
  | missingPrefix (opcode : String) (id : Nat) (opcodePrefix : String)
  | duplicateName (name first second : String)
  deriving DecidableEq, Repr

def CompileError.message : CompileError → String
  | missingPrefix opcode id opcodePrefix =>
    s!"opcode {opcode} (id {id}) does not start with `{opcodePrefix}`"
  | duplicateName name first second =>
    s!"opcodes {first} and {second} both map to the public name `{name}`"

namespace Opcode

def defaultPrefix : String := "BH_"

def publicName (opcodePrefix : String) (opcode : Opcode) : Except CompileError String :=
  match opcodePrefix.toList.isPrefixOf? opcode.name.toList with
  | none | some [] => .error (.missingPrefix opcode.name opcode.id opcodePrefix)
  | some rest => .ok (Text.lowercase (String.ofList rest))

def nativeRow? (types : List ElementType) (row : List String) : Option (List String) :=
  row.mapM (ElementType.nativeOf? types)

def operation (types : List ElementType) (name : String) (opcode : Opcode) : Operation :=
  ⟨name, opcode.id, opcode.operands, opcode.elementwise,
   opcode.rows.filterMap (nativeRow? types)⟩

/-- The operations of opcodes that are not system opcodes, in order; `earlier` maps the names that
are taken to their opcodes. -/
def operationsAfter (types : List ElementType) (opcodePrefix : String)
    (earlier : List (String × String)) : List Opcode → Except CompileError (List Operation)
  | [] => .ok []
  | opcode :: opcodes => do
    let name ← opcode.publicName opcodePrefix
    match earlier.lookup name with
    | some first => .error (.duplicateName name first opcode.name)
    | none =>
      let later ← operationsAfter types opcodePrefix ((name, opcode.name) :: earlier) opcodes
      return opcode.operation types name :: later

/-- The public operations of a table, by name. -/
def compile (types : List ElementType) (opcodePrefix : String) (opcodes : List Opcode) :
    Except CompileError (NameMap Operation) :=
  (operationsAfter types opcodePrefix [] (Opcode.public opcodes)).map fun operations ↦
    .ofList (operations.map fun o ↦ (o.name, o))

end Opcode

end ExportTable
