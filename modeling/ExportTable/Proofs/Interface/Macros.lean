import ExportTable.Interface.Header
import ExportTable.Proofs.CSource.Identifiers
import ExportTable.Proofs.Interface.Validity
import ExportTable.Signature.Extraction
import Mathlib.Data.List.Nodup

/-!
# The macros of a header

A header defines three macros for each function and one for their number, and consumers get a
further macro with the symbol of each function. The first kinds have distinct names in every valid
interface, so what they stand for can be looked up. A symbol can still be the name of another
macro: function names that are distinct may differ by what the other macros append.
-/

namespace ExportTable.Interface

/-! ## Definitions -/

def suffixes : List String := ["_NUM", "_RETURN", "_PROTO"]

/-- The macros that describe one function, with what they stand for. -/
def slotDefinitions (exportPrefix : String) (slot : Slot) : List (String × String) :=
  [(slot.indexMacro exportPrefix, toString slot.index),
   (slot.returnMacro exportPrefix, slot.signature.returnType),
   (slot.parametersMacro exportPrefix, slot.signature.parameters)]

def functionDefinitions (interface : Interface) : List (String × String) :=
  interface.slots.flatMap (slotDefinitions interface.names.exportPrefix)

/-- The macros that the provider and the consumers get. -/
def sharedDefinitions (interface : Interface) : List (String × String) :=
  interface.functionDefinitions ++ [(interface.names.countMacro, toString interface.size)]

/-- The macros that call the functions through the table. -/
def callDefinitions (interface : Interface) : List (String × String) :=
  interface.slots.map fun slot ↦
    let names := interface.names
    (slot.symbol names.exportPrefix,
      s!"(*({slot.returnMacro names.exportPrefix} (*){slot.parametersMacro names.exportPrefix}) " ++
        s!"{names.tableName}[{slot.indexMacro names.exportPrefix}])")

def definitionText (definitions : List (String × String)) : String :=
  String.join (definitions.map fun (name, value) ↦ define name value)

theorem toList_toString_nat (n : Nat) : (toString n).toList = Nat.toDigits 10 n := by
  change (Nat.repr n).toList = _
  simp

theorem isDigit_of_mem_toString {n : Nat} {c : Char} (hc : c ∈ (toString n).toList) :
    c.isDigit := by
  rw [toList_toString_nat] at hc
  exact Nat.isDigit_of_mem_toDigits (by decide) (by decide) hc

/-- The line of a definition without its end. -/
def definitionLine (definition : String × String) : String :=
  "#define " ++ definition.1 ++ " " ++ definition.2

theorem define_eq (name value : String) :
    define name value = definitionLine (name, value) ++ "\n" := rfl

theorem toList_definitionText (definitions : List (String × String)) :
    (definitionText definitions).toList =
      (definitions.map fun definition ↦ (definitionLine definition).toList).flatMap
        (· ++ ['\n']) := by
  simp [definitionText, define_eq, String.toList_join, List.flatMap_map]

theorem definitionText_append (front back : List (String × String)) :
    definitionText (front ++ back) = definitionText front ++ definitionText back := by
  simp [definitionText, String.join_append]

theorem functionMacros_eq (interface : Interface) :
    interface.functionMacros = definitionText interface.functionDefinitions := by
  unfold functionMacros functionDefinitions
  induction interface.slots with
  | nil => rfl
  | cons slot slots ih =>
    rw [List.map_cons, String.join_cons, ih, List.flatMap_cons, definitionText_append]
    simp [slotMacros, slotDefinitions, definitionText, String.append_assoc]

theorem definitionText_singleton (name value : String) :
    definitionText [(name, value)] = define name value := by
  rw [definitionText, List.map_singleton, String.join_cons, String.join_nil]
  exact String.append_empty

theorem countDefinition_eq (interface : Interface) :
    interface.countDefinition = "/* Total number of C API pointers */\n" ++
      definitionText [(interface.names.countMacro, toString interface.size)] := by
  rw [definitionText_singleton]
  rfl

theorem join_callMacro_eq (interface : Interface) :
    String.join (interface.slots.map (callMacro interface.names)) =
      definitionText interface.callDefinitions := by
  rw [definitionText, callDefinitions, List.map_map]
  rfl

/-! ## Their names -/

/-- The names of the shared macros without the export prefix, given those of the functions. -/
def sharedNames (names : List String) : List String :=
  (names.flatMap fun name ↦ suffixes.map (name ++ ·)) ++ ["num_of_pointers"]

theorem map_fst_sharedDefinitions (interface : Interface) :
    interface.sharedDefinitions.map Prod.fst =
      (sharedNames interface.functionNames).map (interface.names.exportPrefix ++ "_" ++ ·) := by
  have hcount : interface.names.countMacro =
      interface.names.exportPrefix ++ "_" ++ "num_of_pointers" := by
    rw [Names.countMacro, String.append_assoc]
    rfl
  simp only [sharedDefinitions, functionDefinitions, sharedNames, functionNames, List.map_append,
    List.map_flatMap, List.flatMap_map, List.map_cons, List.map_nil, hcount]
  congr 2
  funext slot
  simp [slotDefinitions, suffixes, Slot.indexMacro, Slot.returnMacro, Slot.parametersMacro,
    Slot.symbol, Signature.symbol, Slot.name, String.append_assoc]

theorem map_fst_callDefinitions (interface : Interface) :
    interface.callDefinitions.map Prod.fst =
      interface.functionNames.map (interface.names.exportPrefix ++ "_" ++ ·) := by
  simp only [callDefinitions, functionNames, List.map_map]
  rfl

theorem getLast?_append_suffix {suffix : String} (h : suffix ∈ suffixes) (name : String) :
    (name ++ suffix).toList.getLast? = suffix.toList.getLast? := by
  have hne : ∀ s ∈ suffixes, s.toList ≠ [] := by decide
  rw [String.toList_append, List.getLast?_append_of_ne_nil _ (hne suffix h)]

/-- The suffixes end in different characters, so both parts of a macro name are determined. -/
theorem eq_of_append_suffix {name other first second : String} (hfirst : first ∈ suffixes)
    (hsecond : second ∈ suffixes) (h : name ++ first = other ++ second) :
    name = other ∧ first = second := by
  have hdistinct : ∀ s ∈ suffixes, ∀ t ∈ suffixes,
      s.toList.getLast? = t.toList.getLast? → s = t := by
    decide
  have hlast : first.toList.getLast? = second.toList.getLast? := by
    rw [← getLast?_append_suffix hfirst name, h, getLast?_append_suffix hsecond]
  obtain rfl := hdistinct first hfirst second hsecond hlast
  exact ⟨(String.append_left_inj first).mp h, rfl⟩

theorem append_suffix_ne_count {suffix : String} (h : suffix ∈ suffixes) (name : String) :
    name ++ suffix ≠ "num_of_pointers" := by
  intro heq
  have hlast := getLast?_append_suffix h name
  have hcapital : ∀ s ∈ suffixes, s.toList.getLast? ≠ some 's' := by decide
  rw [heq] at hlast
  exact hcapital suffix h hlast.symm

theorem mem_sharedNames {names : List String} {macroName : String} :
    macroName ∈ sharedNames names ↔
      (∃ name ∈ names, ∃ suffix ∈ suffixes, name ++ suffix = macroName) ∨
        macroName = "num_of_pointers" := by
  simp only [sharedNames, List.mem_append, List.mem_flatMap, List.mem_map, List.mem_singleton]

theorem nodup_sharedNames {names : List String} (h : names.Nodup) : (sharedNames names).Nodup := by
  have hsuffixes : suffixes.Nodup := by decide
  rw [sharedNames, List.nodup_append]
  refine ⟨List.nodup_flatMap.mpr ⟨fun name _ ↦ ?_, h.imp fun hne ↦ ?_⟩, List.nodup_singleton _, ?_⟩
  · exact hsuffixes.map fun s t ↦ (String.append_right_inj name).mp
  · intro macroName hleft hright
    obtain ⟨first, hfirst, rfl⟩ := List.mem_map.mp hleft
    obtain ⟨second, hsecond, heq⟩ := List.mem_map.mp hright
    exact hne (eq_of_append_suffix hsecond hfirst heq).1.symm
  · intro macroName hmem count hcount heq
    obtain ⟨name, _, hname⟩ := List.mem_flatMap.mp hmem
    obtain ⟨suffix, hsuffix, rfl⟩ := List.mem_map.mp hname
    exact append_suffix_ne_count hsuffix name (heq.trans (List.mem_singleton.mp hcount))

theorem nodup_map_symbol {names : List String} (start : String) :
    (names.map (start ++ ·)).Nodup ↔ names.Nodup :=
  List.nodup_map_iff fun _ _ ↦ (String.append_right_inj start).mp

theorem nodup_sharedDefinitions {interface : Interface} (h : interface.functionNames.Nodup) :
    (interface.sharedDefinitions.map Prod.fst).Nodup := by
  rw [map_fst_sharedDefinitions, nodup_map_symbol]
  exact nodup_sharedNames h

theorem nodup_functionDefinitions {interface : Interface} (h : interface.functionNames.Nodup) :
    (interface.functionDefinitions.map Prod.fst).Nodup := by
  have hall := nodup_sharedDefinitions h
  rw [sharedDefinitions, List.map_append] at hall
  exact hall.of_append_left

/-! Function names need not be identifiers, the symbols and the macros named for them are. -/

section Identifiers

variable {exportPrefix : String} {slot : Slot}

theorem isIdentifier_symbol (hstart : CSource.isIdentifier exportPrefix)
    (hname : slot.name.toList.all CSource.continuesIdentifier) :
    CSource.isIdentifier (slot.symbol exportPrefix) := by
  have hunderscore : CSource.isIdentifier (exportPrefix ++ "_") :=
    CSource.isIdentifier_append hstart (by decide)
  exact CSource.isIdentifier_append hunderscore hname

theorem isIdentifier_indexMacro (h : CSource.isIdentifier (slot.symbol exportPrefix)) :
    CSource.isIdentifier (slot.indexMacro exportPrefix) :=
  CSource.isIdentifier_append h (by decide)

theorem isIdentifier_returnMacro (h : CSource.isIdentifier (slot.symbol exportPrefix)) :
    CSource.isIdentifier (slot.returnMacro exportPrefix) :=
  CSource.isIdentifier_append h (by decide)

theorem isIdentifier_parametersMacro (h : CSource.isIdentifier (slot.symbol exportPrefix)) :
    CSource.isIdentifier (slot.parametersMacro exportPrefix) :=
  CSource.isIdentifier_append h (by decide)

theorem isIdentifier_countMacro {names : Names} (h : CSource.isIdentifier names.exportPrefix) :
    CSource.isIdentifier names.countMacro :=
  CSource.isIdentifier_append h (by decide)

end Identifiers

/-! ## Collisions -/

/-- The names of all macros that the header defines for its functions and its table. -/
def macroNames (interface : Interface) : List String :=
  (interface.sharedDefinitions ++ interface.callDefinitions).map Prod.fst

/-- The macros of a valid interface have distinct names exactly if no function is named like a macro
that describes another function, or like the number of functions. -/
theorem nodup_macroNames_iff {interface : Interface} (hvalid : interface.validate = .ok ()) :
    interface.macroNames.Nodup ↔
      (∀ name ∈ interface.functionNames, ∀ suffix ∈ suffixes,
        name ++ suffix ∉ interface.functionNames) ∧
      "num_of_pointers" ∉ interface.functionNames := by
  have hnames := (validate_eq_ok_iff.mp hvalid).nodup_functionNames
  rw [macroNames, List.map_append, map_fst_sharedDefinitions, map_fst_callDefinitions,
    ← List.map_append, nodup_map_symbol, List.nodup_append]
  constructor
  · rintro ⟨_, _, hdisjoint⟩
    refine ⟨fun name hname suffix hsuffix hmem ↦ ?_, fun hmem ↦ ?_⟩
    · exact hdisjoint _ (mem_sharedNames.mpr (.inl ⟨name, hname, suffix, hsuffix, rfl⟩)) _ hmem rfl
    · exact hdisjoint _ (mem_sharedNames.mpr (.inr rfl)) _ hmem rfl
  · rintro ⟨hsuffix, hcount⟩
    refine ⟨nodup_sharedNames hnames, hnames, ?_⟩
    rintro macroName hmacro name hname rfl
    rcases mem_sharedNames.mp hmacro with ⟨other, hother, suffix, hmem, rfl⟩ | rfl
    · exact hsuffix other hother suffix hmem hname
    · exact hcount hname

/-- One function is named like the index macro of the other. -/
def suffixSample : String :=
  "static int BhAPI_x(void) \x7b \x7d static int BhAPI_x_NUM(void) \x7b \x7d"

def suffixSignatures : List Signature := [⟨"int", "x", "(void)"⟩, ⟨"int", "x_NUM", "(void)"⟩]

def suffixInterface : Interface where
  names := {}
  slots := Slot.assign suffixSignatures

theorem validate_suffixInterface : suffixInterface.validate = .ok () := by
  decide +kernel

theorem nodup_macroNames_suffixInterface :
    suffixInterface.validate = .ok () ∧
      (suffixInterface.macroNames.Nodup ↔
        (∀ name ∈ suffixInterface.functionNames, ∀ suffix ∈ suffixes,
          name ++ suffix ∉ suffixInterface.functionNames) ∧
        "num_of_pointers" ∉ suffixInterface.functionNames) :=
  ⟨validate_suffixInterface, nodup_macroNames_iff validate_suffixInterface⟩

/-- Validation does not keep the macros apart. -/
theorem macroNames_collide : ¬ ∀ (source : String) (signatures : List Signature) (names : Names),
    names = {} → extractSignatures names.exportPrefix source = .ok signatures →
    (⟨names, Slot.assign signatures, none⟩ : Interface).validate = .ok () →
    (⟨names, Slot.assign signatures, none⟩ : Interface).macroNames.Nodup := by
  intro h
  have hextract : extractSignatures "BhAPI" suffixSample = .ok suffixSignatures := by
    decide +kernel
  have hnodup := h suffixSample suffixSignatures {} rfl hextract validate_suffixInterface
  revert hnodup
  decide +kernel

end ExportTable.Interface
