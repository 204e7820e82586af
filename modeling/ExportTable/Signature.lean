/-!
# Exported functions and their slots

A signature is kept as source text with normalised spacing, ready to be pasted into macros. Its slot
in the pointer table is its position among the exported functions.
-/

namespace ExportTable

structure Signature where
  /-- With qualifiers, such as `const char *`. -/
  returnType : String
  /-- Without the export prefix. -/
  name : String
  /-- With its parentheses. -/
  parameters : String
  deriving DecidableEq, Repr

namespace Signature

/-- The C symbol under the given export prefix. -/
def symbol (f : Signature) (exportPrefix : String) : String := exportPrefix ++ "_" ++ f.name

/-- The declaration without `static` and without an end. -/
def prototype (f : Signature) (exportPrefix : String) : String :=
  f.returnType ++ " " ++ f.symbol exportPrefix ++ f.parameters

end Signature

structure Slot where
  index : Nat
  signature : Signature
  deriving DecidableEq, Repr

namespace Slot

def name (slot : Slot) : String := slot.signature.name

def symbol (slot : Slot) (exportPrefix : String) : String := slot.signature.symbol exportPrefix

def indexMacro (slot : Slot) (exportPrefix : String) : String := slot.symbol exportPrefix ++ "_NUM"

def returnMacro (slot : Slot) (exportPrefix : String) : String :=
  slot.symbol exportPrefix ++ "_RETURN"

def parametersMacro (slot : Slot) (exportPrefix : String) : String :=
  slot.symbol exportPrefix ++ "_PROTO"

/-- Slots in the order of the signatures, counted from zero. -/
def assign (signatures : List Signature) : List Slot :=
  signatures.zipIdx.map fun (f, i) ↦ ⟨i, f⟩

theorem map_index_assign (signatures : List Signature) :
    (assign signatures).map Slot.index = List.range signatures.length := by
  simp [assign, List.map_map, Function.comp_def, List.range_eq_range']

theorem map_signature_assign (signatures : List Signature) :
    (assign signatures).map Slot.signature = signatures := by
  simp [assign, List.map_map, Function.comp_def]

/-- Signatures added at the end leave the slots of the others as they are. -/
theorem prefix_assign {first all : List Signature} (h : first <+: all) :
    assign first <+: assign all := by
  obtain ⟨later, rfl⟩ := h
  rw [assign, assign, List.zipIdx_append, List.map_append]
  exact List.prefix_append _ _

end Slot

end ExportTable
