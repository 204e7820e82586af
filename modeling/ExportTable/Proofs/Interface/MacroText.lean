import ExportTable.Proofs.Interface.DefinedMacros

/-!
# Reading the macros of the functions

The block of macros that describe the functions is a list of lines, each of which defines one name.
Where names hold identifier characters only and values hold no line feed, the definitions are read
back from the text as they were, and the functions with their indices from the definitions.
-/

namespace ExportTable.Interface

/-! ## Definitions from a text -/

/-- The definitions of a text that holds nothing else. A line ends at a line feed only. -/
def readDefinitions? (text : String) : Option (List (String × String)) :=
  let lines := text.toList.splitOn '\n'
  if lines.getLast? = some [] then lines.dropLast.mapM readDefinition? else none

/-- The text of the definition is one line, and the name ends before the space. -/
structure Plain (definition : String × String) : Prop where
  name_line : '\n' ∉ definition.1.toList
  name_space : ' ' ∉ definition.1.toList
  value_line : '\n' ∉ definition.2.toList

theorem splitOn_lines {lines : List (List Char)} (h : ∀ line ∈ lines, '\n' ∉ line) :
    (lines.flatMap (· ++ ['\n'])).splitOn '\n' = lines ++ [[]] := by
  induction lines with
  | nil => rfl
  | cons line rest ih =>
    obtain ⟨hline, hrest⟩ := List.forall_mem_cons.mp h
    have hwhole : line.splitOnP (· == '\n') = [line] := by
      apply List.splitOnP_eq_singleton
      intro c hc
      rw [beq_eq_false_iff_ne]
      rintro rfl
      exact hline hc
    rw [List.splitOn_eq_splitOnP] at ih ⊢
    rw [List.flatMap_cons, List.append_assoc, List.singleton_append,
      List.splitOnP_append_cons _ _ (by rfl), hwhole, ih hrest]
    rfl

theorem readDefinitions?_definitionText {definitions : List (String × String)}
    (h : ∀ definition ∈ definitions, Plain definition) :
    readDefinitions? (definitionText definitions) = some definitions := by
  have hlines : ∀ line ∈ definitions.map fun definition ↦ (definitionLine definition).toList,
      '\n' ∉ line := by
    intro line hline
    obtain ⟨definition, hmem, rfl⟩ := List.mem_map.mp hline
    have hplain := h definition hmem
    simp [definitionLine, hplain.name_line, hplain.value_line]
  have hread : definitions.mapM (fun definition ↦
      readDefinition? (definitionLine definition).toList) = some (definitions.map id) :=
    mapM_eq_some_map fun definition hmem ↦
      readDefinition?_definitionLine (h definition hmem).name_space _
  rw [readDefinitions?, toList_definitionText, splitOn_lines hlines, if_pos List.getLast?_concat,
    List.dropLast_concat, List.mapM_map]
  rwa [List.map_id] at hread

/-! ## Functions from definitions -/

/-- The function that an index macro is named for. -/
def functionName? (exportPrefix indexMacro : String) : Option String := do
  let rest ← (exportPrefix ++ "_").toList.isPrefixOf? indexMacro.toList
  let name ← "_NUM".toList.isSuffixOf? rest
  return String.ofList name

/-- The functions that definitions describe, three for each. -/
def readSlots? (exportPrefix : String) : List (String × String) → Option (List Slot)
  | [] => some []
  | (indexMacro, index) :: (_, returnType) :: (_, parameters) :: rest => do
    let name ← functionName? exportPrefix indexMacro
    let index ← decimal? index
    let slots ← readSlots? exportPrefix rest
    return ⟨index, returnType, name, parameters⟩ :: slots
  | _ => none

theorem functionName?_indexMacro (exportPrefix : String) (slot : Slot) :
    functionName? exportPrefix (slot.indexMacro exportPrefix) = some slot.name := by
  have hstart : (exportPrefix ++ "_").toList.isPrefixOf? (slot.indexMacro exportPrefix).toList =
      some (slot.name.toList ++ "_NUM".toList) := by
    rw [List.isPrefixOf?_eq_some_iff_append_eq]
    simp [Slot.indexMacro, Slot.symbol, Signature.symbol, Slot.name]
  have hend : "_NUM".toList.isSuffixOf? (slot.name.toList ++ "_NUM".toList) =
      some slot.name.toList :=
    List.isSuffixOf?_eq_some_iff_append_eq.mpr rfl
  rw [functionName?, hstart, Option.bind_eq_bind, Option.bind_some, hend, Option.bind_some]
  exact congrArg some (String.ofList_toList)

theorem readSlots?_flatMap (exportPrefix : String) (slots : List Slot) :
    readSlots? exportPrefix (slots.flatMap (slotDefinitions exportPrefix)) = some slots := by
  induction slots with
  | nil => rfl
  | cons slot rest ih =>
    rw [List.flatMap_cons, slotDefinitions]
    simp only [List.cons_append, List.nil_append]
    rw [readSlots?, functionName?_indexMacro, decimal?_toString, ih]
    rfl

/-! ## The block of macros -/

/-- Function names are distinct, all names hold identifier characters only, and types and parameter
lists stand on one line. -/
structure Readable (interface : Interface) : Prop where
  isIdentifier : CSource.isIdentifier interface.names.exportPrefix
  nodup_functionNames : interface.functionNames.Nodup
  all_name : ∀ slot ∈ interface.slots, slot.name.toList.all CSource.continuesIdentifier
  returnType_line : ∀ slot ∈ interface.slots, '\n' ∉ slot.signature.returnType.toList
  parameters_line : ∀ slot ∈ interface.slots, '\n' ∉ slot.signature.parameters.toList

theorem plain_of_isIdentifier {name value : String} (hname : CSource.isIdentifier name)
    (hvalue : '\n' ∉ value.toList) : Plain (name, value) where
  name_line := CSource.not_mem_of_isIdentifier hname (by decide)
  name_space := CSource.not_mem_of_isIdentifier hname (by decide)
  value_line := hvalue

theorem plain_slotDefinitions {exportPrefix : String} {slot : Slot}
    (h : CSource.isIdentifier (slot.symbol exportPrefix))
    (hreturn : '\n' ∉ slot.signature.returnType.toList)
    (hparameters : '\n' ∉ slot.signature.parameters.toList) :
    ∀ definition ∈ slotDefinitions exportPrefix slot, Plain definition := by
  have hindex : '\n' ∉ (toString slot.index).toList := by
    intro hmem
    exact absurd (isDigit_of_mem_toString hmem) (by decide)
  rw [slotDefinitions, List.forall_mem_cons, List.forall_mem_cons, List.forall_mem_singleton]
  exact ⟨plain_of_isIdentifier (isIdentifier_indexMacro h) hindex,
    plain_of_isIdentifier (isIdentifier_returnMacro h) hreturn,
    plain_of_isIdentifier (isIdentifier_parametersMacro h) hparameters⟩

namespace Readable

variable {interface : Interface}

theorem readDefinitions?_functionMacros (h : interface.Readable) :
    readDefinitions? interface.functionMacros = some interface.functionDefinitions := by
  rw [functionMacros_eq]
  apply readDefinitions?_definitionText
  intro definition hmem
  obtain ⟨slot, hslot, hdefinition⟩ := List.mem_flatMap.mp hmem
  exact plain_slotDefinitions (isIdentifier_symbol h.isIdentifier (h.all_name slot hslot))
    (h.returnType_line slot hslot) (h.parameters_line slot hslot) definition hdefinition

theorem lookup_eq_some (h : interface.Readable) {slot : Slot} (hslot : slot ∈ interface.slots)
    {definition : String × String}
    (hmem : definition ∈ slotDefinitions interface.names.exportPrefix slot) :
    interface.functionDefinitions.lookup definition.1 = some definition.2 :=
  (lookup_eq_some_iff_mem (nodup_functionDefinitions h.nodup_functionNames)).mpr
    (List.mem_flatMap.mpr ⟨slot, hslot, hmem⟩)

end Readable

theorem length_functionDefinitions (interface : Interface) :
    interface.functionDefinitions.length = 3 * interface.size := by
  simp [functionDefinitions, slotDefinitions, size, Nat.mul_comm]

/-- The definitions that are read from the block of macros are three for each function, under
distinct names, with the index, the return type and the parameters as they were; the functions are
read from them in their order. So the text determines the functions. -/
theorem functionMacros_determine_slots {interface : Interface} (h : interface.Readable) :
    ∃ definitions, readDefinitions? interface.functionMacros = some definitions ∧
      definitions.length = 3 * interface.size ∧
      (definitions.map Prod.fst).Nodup ∧
      (∀ slot ∈ interface.slots,
        definitions.lookup (slot.indexMacro interface.names.exportPrefix) =
            some (toString slot.index) ∧
          definitions.lookup (slot.returnMacro interface.names.exportPrefix) =
            some slot.signature.returnType ∧
          definitions.lookup (slot.parametersMacro interface.names.exportPrefix) =
            some slot.signature.parameters) ∧
      readSlots? interface.names.exportPrefix definitions = some interface.slots ∧
      ∀ other : Interface, other.Readable →
        other.names.exportPrefix = interface.names.exportPrefix →
        other.functionMacros = interface.functionMacros → other.slots = interface.slots := by
  have hread := h.readDefinitions?_functionMacros
  refine ⟨interface.functionDefinitions, hread, length_functionDefinitions interface,
    nodup_functionDefinitions h.nodup_functionNames, ?_, readSlots?_flatMap _ _, ?_⟩
  · intro slot hslot
    have hlookup : ∀ definition ∈ slotDefinitions interface.names.exportPrefix slot,
        interface.functionDefinitions.lookup definition.1 = some definition.2 :=
      fun _ hmem ↦ h.lookup_eq_some hslot hmem
    rw [slotDefinitions, List.forall_mem_cons, List.forall_mem_cons, List.forall_mem_singleton]
      at hlookup
    exact hlookup
  · intro other hother hstart htext
    have hotherRead := hother.readDefinitions?_functionMacros
    rw [htext, hread, Option.some.injEq] at hotherRead
    have hslots : readSlots? other.names.exportPrefix other.functionDefinitions =
        some other.slots := readSlots?_flatMap _ _
    rw [← hotherRead, hstart, functionDefinitions, readSlots?_flatMap, Option.some.injEq] at hslots
    exact hslots.symm

/-- A function is named like an index macro, one has a carriage return in its type, and one has a
definition for a parameter list. -/
def suffixedInterface : Interface where
  names := { exportPrefix := "A" }
  slots :=
    [⟨7, "", "x", "(int a)"⟩, ⟨0, " int  *\r", "x_NUM", ""⟩, ⟨3, "void", "", "#define A_x_NUM 1"⟩]

theorem functionMacros_determine_slots_suffixedInterface :
    suffixedInterface.Readable ∧
      ∃ definitions, readDefinitions? suffixedInterface.functionMacros = some definitions ∧
        definitions.length = 9 ∧
        definitions.lookup "A_x_NUM" = some "7" ∧
        definitions.lookup "A_x_NUM_RETURN" = some " int  *\r" ∧
        definitions.lookup "A__PROTO" = some "#define A_x_NUM 1" ∧
        readSlots? "A" definitions = some suffixedInterface.slots := by
  have h : suffixedInterface.Readable :=
    { isIdentifier := by decide
      nodup_functionNames := by decide
      all_name := by decide
      returnType_line := by decide
      parameters_line := by decide }
  obtain ⟨definitions, hread, hlength, _, hlookup, hslots, _⟩ := functionMacros_determine_slots h
  have hfirst := hlookup ⟨7, "", "x", "(int a)"⟩ (by decide)
  have hsecond := hlookup ⟨0, " int  *\r", "x_NUM", ""⟩ (by decide)
  have hthird := hlookup ⟨3, "void", "", "#define A_x_NUM 1"⟩ (by decide)
  exact ⟨h, definitions, hread, hlength, hfirst.1, hsecond.2.1, hthird.2.2, hslots⟩

end ExportTable.Interface
