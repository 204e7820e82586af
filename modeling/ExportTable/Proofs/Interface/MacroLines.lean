import ExportTable.Proofs.Interface.DefinedMacros

/-!
# Lines that describe functions

An index macro of a header names a symbol, and the symbol names the macros of the return type and the
parameters. The line that shows a function holds nothing but what these macros stand for. It goes on
over the line feeds that they have.
-/

namespace ExportTable.Interface

open CSource Extraction

/-! ## Looking up macros -/

/-- The symbol that an index macro is named for. -/
def indexedSymbol? (macroName : String) : Option String :=
  ("_NUM".toList.isSuffixOf? macroName.toList).map String.ofList

/-- The line that shows a function, without its end. -/
def shownLine (index returnType symbol parameters : String) : String :=
  String.ofList (index.toList.leftpad 4 ' ') ++ "  " ++ returnType ++ " " ++ symbol ++ parameters

/-- What the macros named for a symbol say. -/
def describedBy? (definitions : List (String × String)) (symbol : String) : Option String := do
  let index ← definitions.lookup (symbol ++ "_NUM")
  let returnType ← definitions.lookup (symbol ++ "_RETURN")
  let parameters ← definitions.lookup (symbol ++ "_PROTO")
  return shownLine index returnType symbol parameters

/-- The symbols that the index macros of a text are named for, in the order of the text. -/
def indexedSymbols (text : String) : List String :=
  (definedIn text).filterMap fun definition ↦ indexedSymbol? definition.1

theorem indexedSymbol?_eq_some_iff {macroName symbol : String} :
    indexedSymbol? macroName = some symbol ↔ symbol ++ "_NUM" = macroName := by
  rw [indexedSymbol?, Option.map_eq_some_iff, ← String.toList_inj, String.toList_append]
  constructor
  · rintro ⟨name, hname, rfl⟩
    rw [String.toList_ofList]
    exact List.isSuffixOf?_eq_some_iff_append_eq.mp hname
  · intro h
    exact ⟨symbol.toList, List.isSuffixOf?_eq_some_iff_append_eq.mpr h, String.ofList_toList⟩

theorem indexedSymbol?_eq_none {suffix : String} (hmem : suffix ∈ suffixes) (hne : suffix ≠ "_NUM")
    (name : String) : indexedSymbol? (name ++ suffix) = none := by
  rw [Option.eq_none_iff_forall_not_mem]
  intro symbol hsymbol
  have h := indexedSymbol?_eq_some_iff.mp hsymbol
  exact hne (eq_of_append_suffix (by decide) hmem h).2.symm

theorem filterMap_slotReadings (exportPrefix : String) (slot : Slot) :
    (slotReadings exportPrefix slot).filterMap (fun definition ↦ indexedSymbol? definition.1) =
      [slot.symbol exportPrefix] := by
  have hindex : indexedSymbol? (slot.indexMacro exportPrefix) = some (slot.symbol exportPrefix) :=
    indexedSymbol?_eq_some_iff.mpr rfl
  have hreturn : indexedSymbol? (slot.returnMacro exportPrefix) = none :=
    indexedSymbol?_eq_none (by decide) (by decide) _
  have hparameters : indexedSymbol? (slot.parametersMacro exportPrefix) = none :=
    indexedSymbol?_eq_none (by decide) (by decide) _
  rw [slotReadings, slotDefinitions]
  split <;> simp [hindex, hreturn, hparameters]

theorem indexedSymbol?_countMacro (names : Names) : indexedSymbol? names.countMacro = none := by
  rw [Option.eq_none_iff_forall_not_mem]
  intro symbol hsymbol
  have hlast := congrArg (·.toList.getLast?) (indexedSymbol?_eq_some_iff.mp hsymbol)
  have hcount : "_num_of_pointers".toList ≠ [] := by decide
  dsimp only [Names.countMacro] at hlast
  rw [getLast?_append_suffix (by decide), String.toList_append,
    List.getLast?_append_of_ne_nil _ hcount] at hlast
  revert hlast
  decide

variable {interface : Interface}

/-- The block has one index macro for each function, in the order of the slots. -/
theorem indexedSymbols_sharedMacros (hvalid : interface.Valid) (hfits : interface.FitsHeader) :
    indexedSymbols interface.sharedMacros =
      interface.slots.map fun slot ↦ slot.symbol interface.names.exportPrefix := by
  have hstart := hvalid.isIdentifier .exportPrefix (by decide)
  have hcount : [(interface.names.countMacro, toString interface.size)].filterMap
      (fun definition ↦ indexedSymbol? definition.1) = [] := by
    simp [indexedSymbol?_countMacro]
  rw [indexedSymbols, definedIn_sharedMacros hstart hfits, List.filterMap_append,
    List.filterMap_flatMap, hcount, List.append_nil]
  simp only [filterMap_slotReadings]
  exact List.flatMap_pure_eq_map _ _

def slotLine (exportPrefix : String) (slot : Slot) : String :=
  shownLine (toString slot.index) slot.signature.returnType (slot.symbol exportPrefix)
    slot.signature.parameters

/-- The macros of the block tell what the line of a function shows. -/
theorem describedBy?_symbol (hvalid : interface.Valid) (hfits : interface.FitsHeader) {slot : Slot}
    (hslot : slot ∈ interface.slots)
    (hend : ¬ EndsInBackslash slot.signature.returnType.toList) :
    describedBy? (definedIn interface.sharedMacros)
        (slot.symbol interface.names.exportPrefix) =
      some (slotLine interface.names.exportPrefix slot) := by
  have hindex := lookup_sharedMacros hvalid hfits hslot (indexDefinition_mem _ slot)
  have hreturn := lookup_sharedMacros hvalid hfits hslot (returnDefinition_mem hend)
  have hparameters := lookup_sharedMacros hvalid hfits hslot (parametersDefinition_mem hend)
  rw [Slot.indexMacro] at hindex
  rw [Slot.returnMacro] at hreturn
  rw [Slot.parametersMacro] at hparameters
  rw [describedBy?, hindex, hreturn, hparameters]
  rfl

/-! ## One line for each function -/

theorem endsInBackslash_of_append {front back : List Char} (h : EndsInBackslash (front ++ back)) :
    EndsInBackslash front ∨ EndsInBackslash back := by
  induction front with
  | nil => exact .inr h
  | cons c front ih =>
    rw [List.cons_append, endsInBackslash_cons] at h
    rcases h with ⟨rfl, hempty | hreturn⟩ | hlast
    · obtain ⟨rfl, -⟩ := List.append_eq_nil_iff.mp hempty
      exact .inl (by decide)
    · rcases List.append_eq_singleton_iff.mp hreturn with ⟨rfl, -⟩ | ⟨rfl, -⟩
      · exact .inl (by decide)
      · exact .inl (by decide)
    · exact (ih hlast).imp_left fun hfront ↦ endsInBackslash_cons.mpr (.inr hfront)

/-- What a line starts with: the index, and two blanks. -/
def indexColumn (index : Nat) : List Char := (toString index).toList.leftpad 4 ' ' ++ [' ', ' ']

theorem feed_not_mem_indexColumn (index : Nat) : '\n' ∉ indexColumn index := by
  intro hmem
  rcases List.mem_append.mp hmem with hmem | hmem
  · rcases List.mem_append.mp hmem with hmem | hmem
    · exact absurd (List.eq_of_mem_replicate hmem) (by decide)
    · exact absurd (isDigit_of_mem_toString hmem) (by decide)
  · exact absurd hmem (by decide)

theorem toList_slotLine (exportPrefix : String) (slot : Slot) :
    (slotLine exportPrefix slot).toList =
      indexColumn slot.index ++ slot.signature.returnType.toList ++
        ' ' :: ((slot.symbol exportPrefix).toList ++ slot.signature.parameters.toList) := by
  simp [slotLine, shownLine, indexColumn]

/-- Line feeds in a line stand after a backslash, as in the macros, and the line ends with its end. -/
theorem slotLine_fits {exportPrefix : String} {slot : Slot}
    (h : FitsDirectives exportPrefix slot.signature) :
    Continued (slotLine exportPrefix slot).toList ∧
      ¬ EndsInBackslash (slotLine exportPrefix slot).toList := by
  have hsymbol : Continued (slot.symbol exportPrefix).toList :=
    .of_not_mem (not_mem_of_isIdentifier h.isIdentifier (by decide))
  rw [toList_slotLine, endsInBackslash_append_cons (by decide) (by decide)]
  constructor
  · have hindex := Continued.of_not_mem (feed_not_mem_indexColumn slot.index)
    exact (hindex.append h.returnType).append
      (.cons (by decide) (hsymbol.append h.parameters))
  · intro hend
    rcases endsInBackslash_of_append hend with hend | hend
    · exact not_mem_of_isIdentifier h.isIdentifier (by decide) hend.mem
    · exact h.parameters_end hend

theorem feed_mem_slotLine_iff {exportPrefix : String} {slot : Slot}
    (h : isIdentifier (slot.symbol exportPrefix)) :
    '\n' ∈ (slotLine exportPrefix slot).toList ↔
      '\n' ∈ slot.signature.returnType.toList ∨ '\n' ∈ slot.signature.parameters.toList := by
  have hsymbol : '\n' ∉ (slot.symbol exportPrefix).toList := not_mem_of_isIdentifier h (by decide)
  have hindex := feed_not_mem_indexColumn slot.index
  rw [toList_slotLine, List.mem_append, List.mem_append, List.mem_cons, List.mem_append]
  simp [hsymbol, hindex]

end ExportTable.Interface
