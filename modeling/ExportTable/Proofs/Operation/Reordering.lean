import ExportTable.Proofs.Info.Sections
import ExportTable.Proofs.Operation.Compilation

/-!
# Reordered tables

System opcodes have no part in what a table compiles to, and neither has the order of the others.
Two tables with the same other opcodes both compile or both fail, and they compile to the same
operations, so their artifacts have the same section of operations. Only the reported fault may
differ.
-/

namespace ExportTable

namespace ElementType

theorem isNative_rightUnique (types : List ElementType) :
    Relator.RightUnique (IsNative types) := by
  intro tag native other hnative hother
  rw [← nativeOf?_eq_some_iff] at hnative hother
  exact Option.some.inj (hnative.symm.trans hother)

end ElementType

namespace Opcode

variable {types : List ElementType} {opcodePrefix : String}

theorem Compilable.of_perm {first second : List Opcode} (h : Compilable opcodePrefix first)
    (hperm : first.Perm second) : Compilable opcodePrefix second where
  named := fun opcode hopcode ↦ h.named opcode (hperm.mem_iff.mpr hopcode)
  distinct := by
    refine hperm.pairwise h.distinct fun hapart name hname hagain ↦ ?_
    exact hapart name hagain hname

/-- An opcode tells its whole binding. -/
theorem describes_rightUnique (types : List ElementType) (opcodePrefix : String) :
    Relator.RightUnique (Describes types opcodePrefix) := by
  intro opcode binding other h hother
  obtain ⟨name, operation⟩ := binding
  obtain ⟨otherName, otherOperation⟩ := other
  have hname : name = otherName := h.isPublicName.unique hother.isPublicName
  have hrows : operation.rows = otherOperation.rows :=
    (ElementType.isNative_rightUnique types).forall₂.forall₂ h.translates hother.translates
  have hoperation : operation = otherOperation := by
    obtain ⟨_, _, _, _, _⟩ := operation
    obtain ⟨_, _, _, _, _⟩ := otherOperation
    rw [Operation.mk.injEq]
    exact ⟨h.name_eq.trans (hname.trans hother.name_eq.symm), h.id_eq.trans hother.id_eq.symm,
      h.operands_eq.trans hother.operands_eq.symm,
      h.elementwise_eq.trans hother.elementwise_eq.symm, hrows⟩
  rw [hname, hoperation]

theorem Covers.unique {first second : List Opcode} {operations others : NameMap Operation}
    (h : Covers types opcodePrefix first operations)
    (hothers : Covers types opcodePrefix second others) (hperm : first.Perm second) :
    operations = others := by
  obtain ⟨order, horder, hdescribes⟩ := h
  obtain ⟨otherOrder, hotherOrder, hotherDescribes⟩ := hothers
  have horders : order.Perm otherOrder := horder.trans (hperm.trans hotherOrder.symm)
  have hunique := describes_rightUnique types opcodePrefix
  exact NameMap.eq_of_perm (List.rel_perm_imp hunique hdescribes hotherDescribes horders)

theorem exists_compile_iff (opcodes : List Opcode) :
    (∃ operations, compile types opcodePrefix opcodes = .ok operations) ↔
      Compilable opcodePrefix (Opcode.public opcodes) := by
  rcases compile_cases types opcodePrefix opcodes with
    ⟨operations, hok, hcompilable, _⟩ | ⟨e, herror, hfault⟩
  · exact iff_of_true ⟨operations, hok⟩ hcompilable
  · refine iff_of_false ?_ hfault.not_compilable
    rintro ⟨operations, hok⟩
    cases herror.symm.trans hok

theorem covers_of_compile {opcodes : List Opcode} {operations : NameMap Operation}
    (h : compile types opcodePrefix opcodes = .ok operations) :
    Covers types opcodePrefix (Opcode.public opcodes) operations := by
  rcases compile_cases types opcodePrefix opcodes with ⟨others, hok, _, hcovers⟩ | ⟨e, herror, _⟩
  · exact Except.ok.inj (hok.symm.trans h) ▸ hcovers
  · cases herror.symm.trans h

/-- Tables that differ only in their system opcodes and in the order of the others compile alike. -/
theorem compile_of_perm {first second : List Opcode}
    (hperm : (Opcode.public first).Perm (Opcode.public second)) (types : List ElementType)
    (opcodePrefix : String) :
    ((∃ operations, compile types opcodePrefix first = .ok operations) ↔
      ∃ operations, compile types opcodePrefix second = .ok operations) ∧
    ∀ operations others, compile types opcodePrefix first = .ok operations →
      compile types opcodePrefix second = .ok others →
      operations = others ∧
      ∀ format : InfoFormat, ∃ shared, ∀ info other : Info,
        info.operations = operations → other.operations = others →
        info.text format =
            format.versionSection info.version ++ shared ++ format.typeSection info.types ∧
          other.text format =
            format.versionSection other.version ++ shared ++ format.typeSection other.types := by
  constructor
  · calc
      _ ↔ Compilable opcodePrefix (Opcode.public first) := exists_compile_iff first
      _ ↔ Compilable opcodePrefix (Opcode.public second) :=
        ⟨fun h ↦ h.of_perm hperm, fun h ↦ h.of_perm hperm.symm⟩
      _ ↔ _ := (exists_compile_iff second).symm
  · intro operations others hfirst hsecond
    have heq : operations = others :=
      (covers_of_compile hfirst).unique (covers_of_compile hsecond) hperm
    refine ⟨heq, fun format ↦ ⟨format.operationSection operations, ?_⟩⟩
    intro info other hinfo hother
    constructor
    · rw [info.text_eq_sections, hinfo]
    · rw [other.text_eq_sections, hother, heq]

/-- The opcodes of the sample in another order, with other system opcodes between them; both of
these would be faults if they were compiled. -/
def reorderedOpcodes : List Opcode :=
  [⟨"", 0, 0, false, true, [[]]⟩,
   ⟨"BH_ADD", 5, 2, false, false, [["BH_FLOAT"]]⟩, ⟨"BH_add", 9, 9, true, true, []⟩,
   ⟨"BH_LESS", 7, 3, true, false, [["BH_BOOL", "BH_INT"], ["BH_STR"], [], ["BH_BOOL", "BH_INT"]]⟩]

theorem compile_of_perm_reorderedOpcodes :
    (Opcode.public reorderedOpcodes).Perm (Opcode.public sampleOpcodes) ∧
    compile sampleTypes "BH_" reorderedOpcodes = .ok sampleOperations ∧
    compile sampleTypes "BH_" sampleOpcodes = .ok sampleOperations ∧
    ∃ shared,
      (⟨"1.2-3", sampleOperations, []⟩ : Info).text .json =
          InfoFormat.versionSection "1.2-3" .json ++ shared ++ InfoFormat.typeSection [] .json ∧
        (⟨"9.9.9", sampleOperations, ["bool"]⟩ : Info).text .json =
          InfoFormat.versionSection "9.9.9" .json ++ shared ++
            InfoFormat.typeSection ["bool"] .json := by
  have hperm : (Opcode.public reorderedOpcodes).Perm (Opcode.public sampleOpcodes) := by
    decide
  have hsample : compile sampleTypes "BH_" sampleOpcodes = .ok sampleOperations := by
    decide +kernel
  obtain ⟨hiff, hresult⟩ := compile_of_perm hperm sampleTypes "BH_"
  obtain ⟨operations, hreordered⟩ := hiff.mpr ⟨_, hsample⟩
  obtain ⟨rfl, hsections⟩ := hresult _ _ hreordered hsample
  obtain ⟨shared, htexts⟩ := hsections .json
  exact ⟨hperm, hreordered, hsample, shared,
    htexts ⟨"1.2-3", sampleOperations, []⟩ ⟨"9.9.9", sampleOperations, ["bool"]⟩ rfl rfl⟩

end Opcode

end ExportTable
