import ExportTable.Proofs.Operation.Reordering
import ExportTable.Recipe

/-!
# Supported types

The info artifact lists the native names of the element type table beside the operations. The list
keeps every native name of the table, in its order, and the rows of operations have no other names:
each was put there for a tag, and the entry that gave it is in the table.
-/

namespace ExportTable

namespace ElementType

/-- A text that stands for a native type. -/
def IsNativeName (name : String) : Prop := name ≠ "" ∧ name ≠ unknownName

instance : DecidablePred IsNativeName := fun name ↦
  inferInstanceAs (Decidable (name ≠ "" ∧ name ≠ unknownName))

theorem nativeName?_eq_guard (t : ElementType) :
    t.nativeName? = Option.guard (IsNativeName ·) t.native := by
  rw [Option.ext_iff]
  intro native
  rw [nativeName?_eq_some_iff, Option.guard_eq_some_iff, decide_eq_true_iff, IsNativeName]
  constructor
  · rintro ⟨rfl, hnative⟩
    exact ⟨rfl, hnative⟩
  · rintro ⟨rfl, hnative⟩
    exact ⟨rfl, hnative⟩

theorem supported_eq_filter (types : List ElementType) :
    supported types = (types.map (·.native)).filter (IsNativeName ·) := by
  rw [← List.filterMap_eq_filter, List.filterMap_map]
  exact congrArg (List.filterMap · types) (funext nativeName?_eq_guard)

theorem mem_supported_iff {types : List ElementType} {name : String} :
    name ∈ supported types ↔ (∃ t ∈ types, t.native = name) ∧ IsNativeName name := by
  rw [supported_eq_filter, List.mem_filter, List.mem_map, decide_eq_true_iff]

theorem IsNative.mem_supported {types : List ElementType} {tag native : String}
    (h : IsNative types tag native) : native ∈ supported types := by
  obtain ⟨before, t, after, rfl, _, hnative, hnonempty, hknown, _⟩ := h
  have hmem : t ∈ before ++ t :: after := List.mem_append_right _ List.mem_cons_self
  exact mem_supported_iff.mpr ⟨⟨t, hmem, hnative⟩, hnonempty, hknown⟩

end ElementType

/-- One of the rows has the name. -/
def Operation.Accepts (operation : Operation) (native : String) : Prop :=
  ∃ row ∈ operation.rows, native ∈ row

namespace Opcode

open ElementType

variable {types : List ElementType} {opcodePrefix : String}

theorem Translates.exists_isNative {rows natives : List (List String)}
    (h : Translates types rows natives) {row : List String} (hrow : row ∈ natives)
    {native : String} (hnative : native ∈ row) :
    ∃ tags ∈ rows, ∃ tag ∈ tags, IsNative types tag native := by
  obtain ⟨tags, htags, hnatives⟩ := exists_of_forall₂ h hrow
  obtain ⟨tag, htag, hisNative⟩ := exists_of_forall₂ hnatives hnative
  exact ⟨tags, List.mem_of_mem_filter htags, tag, htag, hisNative⟩

theorem Covers.mem_supported {opcodes : List Opcode} {operations : NameMap Operation}
    (h : Covers types opcodePrefix opcodes operations) {binding : String × Operation}
    (hmem : binding ∈ operations.bindings) {native : String} (haccepts : binding.2.Accepts native) :
    native ∈ supported types := by
  obtain ⟨order, _, hdescribes⟩ := h
  obtain ⟨opcode, _, hdescribed⟩ := exists_of_forall₂ hdescribes hmem
  obtain ⟨row, hrow, hnative⟩ := haccepts
  obtain ⟨_, _, tag, _, hisNative⟩ := hdescribed.translates.exists_isNative hrow hnative
  exact hisNative.mem_supported

end Opcode

namespace Recipe

/-- The tables that the operations of a recipe come from. -/
theorem exists_compile_of_operations {recipe : Recipe} {files : FileStore}
    {operations : NameMap Operation} {types : List String}
    (h : recipe.operations files = .ok (operations, types)) :
    ∃ opcodes table, Opcode.compile table recipe.opcodePrefix opcodes = .ok operations ∧
      types = ElementType.supported table := by
  unfold Recipe.operations at h
  split at h
  · obtain ⟨opcodes, _, h⟩ := bind_eq_ok_iff.mp h
    obtain ⟨table, _, h⟩ := bind_eq_ok_iff.mp h
    obtain ⟨compiled, hcompile, h⟩ := bind_eq_ok_iff.mp h
    obtain ⟨rfl, rfl⟩ := Prod.mk.inj (Except.ok.inj h)
    exact ⟨opcodes, table, mapError_eq_ok_iff.mp hcompile, rfl⟩
  · cases h

end Recipe

namespace Opcode

open ElementType

/-- An operation accepts only supported types. These are the native names of the table in its order,
without the texts that stand for no type, and the info artifact has them next to the operations. -/
theorem accepts_supported (types : List ElementType) (opcodePrefix : String)
    (opcodes : List Opcode) :
    (∀ operations, compile types opcodePrefix opcodes = .ok operations →
      ∀ binding ∈ operations.bindings, ∀ native, binding.2.Accepts native →
        native ∈ supported types ∧ IsNativeName native) ∧
    supported types = (types.map (·.native)).filter (IsNativeName ·) ∧
    ∀ (recipe : Recipe) (host : Host) (info : Info), recipe.info host = .ok info →
      ∀ binding ∈ info.operations.bindings, ∀ native, binding.2.Accepts native →
        native ∈ info.types ∧ IsNativeName native := by
  have hcompiled (table : List ElementType) (start : String) (entries : List Opcode)
      (operations : NameMap Operation) (h : compile table start entries = .ok operations)
      (binding : String × Operation) (hmem : binding ∈ operations.bindings) (native : String)
      (haccepts : binding.2.Accepts native) : native ∈ supported table ∧ IsNativeName native := by
    have hsupported := (covers_of_compile h).mem_supported hmem haccepts
    exact ⟨hsupported, (mem_supported_iff.mp hsupported).2⟩
  refine ⟨hcompiled types opcodePrefix opcodes, supported_eq_filter types, ?_⟩
  intro recipe host info hinfo
  obtain ⟨⟨operations, names⟩, hoperations, hinfo⟩ := bind_eq_ok_iff.mp hinfo
  obtain ⟨version, _, hinfo⟩ := bind_eq_ok_iff.mp hinfo
  obtain rfl := Except.ok.inj hinfo
  obtain ⟨entries, table, hcompile, rfl⟩ := Recipe.exists_compile_of_operations hoperations
  exact hcompiled table recipe.opcodePrefix entries operations hcompile

/-- The operation is given the first native name of a repeated tag; the list has both of them. -/
theorem accepts_supported_sampleOpcodes :
    compile sampleTypes "BH_" sampleOpcodes = .ok sampleOperations ∧
    (∃ binding ∈ sampleOperations.bindings, binding.2.Accepts "int32") ∧
    "int32" ∈ supported sampleTypes ∧ IsNativeName "int32" ∧
    supported sampleTypes = ["bool", "int32", "int64"] := by
  have hcompile : compile sampleTypes "BH_" sampleOpcodes = .ok sampleOperations := by
    decide +kernel
  let less : String × Operation :=
    ("less", ⟨"less", 7, 3, true, [["bool", "int32"], [], ["bool", "int32"]]⟩)
  have hmem : less ∈ sampleOperations.bindings := by decide +kernel
  have haccepts : less.2.Accepts "int32" := ⟨["bool", "int32"], by decide, by decide⟩
  obtain ⟨hnames, hlist, -⟩ := accepts_supported sampleTypes "BH_" sampleOpcodes
  obtain ⟨hsupported, hnative⟩ := hnames _ hcompile less hmem "int32" haccepts
  exact ⟨hcompile, ⟨less, hmem, haccepts⟩, hsupported, hnative, hlist.trans (by decide)⟩

end Opcode

end ExportTable
