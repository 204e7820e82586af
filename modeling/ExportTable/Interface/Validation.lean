import ExportTable.CSource.Identifier
import ExportTable.Interface
import ExportTable.Text.Quoted

/-!
# Validation of interfaces

A header for an interface compiles to a table in which each function has its own slot only if the
names are C identifiers, the capsule key fits a string literal, no two functions share a name, and
the function at each position has that position as its index. `validate` reports the first condition
that fails, in this order.
-/

namespace ExportTable.Interface

inductive ValidationError where
  | emptyName (field : NameField)
  | invalidIdentifier (field : NameField) (value : String)
  | invalidCapsuleKey (key : String)
  | duplicateFunction (name : String)
  | indexGap (name : String) (expected found : Nat)
  deriving DecidableEq, Repr

def ValidationError.message : ValidationError → String
  | emptyName field => s!"{field.label} cannot be empty"
  | invalidIdentifier field value =>
    s!"{field.label} is not a valid C identifier: {Text.quoted value}"
  | invalidCapsuleKey key =>
    s!"capsule key cannot be used in a C string literal: {Text.quoted key}"
  | duplicateFunction name => s!"duplicate exported function: {name}"
  | indexGap name expected found =>
    s!"function {name} has index {found} but slot {expected} was expected"

def fitsStringLiteral (key : String) : Bool :=
  key.toList.all fun c ↦ c ≠ '"' ∧ c ≠ '\\' ∧ c ≠ '\n'

def Names.identifierError? (names : Names) (field : NameField) : Option ValidationError :=
  let value := names.get field
  if value = "" then some (.emptyName field)
  else if CSource.isIdentifier value then none
  else some (.invalidIdentifier field value)

def Names.capsuleKeyError? (names : Names) : Option ValidationError :=
  if names.capsuleKey = "" then some (.emptyName .capsuleKey)
  else if fitsStringLiteral names.capsuleKey then none
  else some (.invalidCapsuleKey names.capsuleKey)

/-- The first name that stands in `seen` or before itself. -/
def firstRepeated? (seen : List String) : List String → Option String
  | [] => none
  | name :: names => if name ∈ seen then some name else firstRepeated? (name :: seen) names

/-- The first slot whose index is not its position, counted from `position`. -/
def firstGap? (position : Nat) : List Slot → Option ValidationError
  | [] => none
  | slot :: slots =>
    if slot.index = position then firstGap? (position + 1) slots
    else some (.indexGap slot.name position slot.index)

/-- The first condition that the interface fails. -/
def validationError? (interface : Interface) : Option ValidationError :=
  (NameField.identifiers.findSome? interface.names.identifierError?)
    |>.or interface.names.capsuleKeyError?
    |>.or ((firstRepeated? [] interface.functionNames).map .duplicateFunction)
    |>.or (firstGap? 0 interface.slots)

def validate (interface : Interface) : Except ValidationError Unit :=
  match interface.validationError? with
  | some e => .error e
  | none => .ok ()

end ExportTable.Interface
