import ExportTable.Proofs.Bindings
import ExportTable.Proofs.Interface.MacroDirectives
import Mathlib.Data.List.Flatten

/-!
# Macros that a header defines

The provider and the consumers share one block of a header: the macros of the functions and the
number of functions. What a directive of the block defines is read from its text. Where the texts of
the functions fit into their directives, every index and the number are read back as they were, and
so are a return type and a parameter list unless the return type ends in a backslash.
-/

namespace ExportTable.Interface

open CSource Extraction

/-! ## Definitions in a text -/

/-- A line that defines a name, cut at the first space after the name. -/
def readDefinition? (line : List Char) : Option (String × String) := do
  let rest ← "#define ".toList.isPrefixOf? line
  match rest.dropWhile (· ≠ ' ') with
  | [] => none
  | _ :: value => some (String.ofList (rest.takeWhile (· ≠ ' ')), String.ofList value)

/-- What the lines of a text define, where a line goes on after a backslash at its end. -/
def definedIn (text : String) : List (String × String) :=
  (directives text.toList).filterMap readDefinition?

/-- The number that decimal digits denote. -/
def decimal? (value : String) : Option Nat :=
  if value.toList ≠ [] ∧ value.toList.all Char.isDigit then
    some (Nat.ofDigitChars 10 value.toList 0)
  else none

/-- The number that a macro of a text stands for. -/
def macroNumber? (text name : String) : Option Nat := ((definedIn text).lookup name).bind decimal?

theorem readDefinition?_definitionLine {name : String} (h : ' ' ∉ name.toList) (value : String) :
    readDefinition? (definitionLine (name, value)).toList = some (name, value) := by
  have hstart : "#define ".toList.isPrefixOf? (definitionLine (name, value)).toList =
      some (name.toList ++ ' ' :: value.toList) := by
    rw [List.isPrefixOf?_eq_some_iff_append_eq]
    simp [definitionLine]
  have hname : ∀ c ∈ name.toList, decide (c ≠ ' ') :=
    fun c hc ↦ decide_eq_true (ne_of_mem_of_not_mem hc h)
  rw [readDefinition?, hstart, Option.bind_eq_bind, Option.bind_some,
    List.dropWhile_append_of_pos hname, List.takeWhile_append_of_pos hname]
  simp

theorem decimal?_toString (n : Nat) : decimal? (toString n) = some n := by
  have hne : (toString n).toList ≠ [] := by
    rw [toList_toString_nat]
    exact Nat.toDigits_ne_nil
  have hdigits : (toString n).toList.all Char.isDigit :=
    List.all_eq_true.mpr fun c hc ↦ isDigit_of_mem_toString hc
  rw [decimal?, if_pos ⟨hne, hdigits⟩, toList_toString_nat, Nat.ofDigitChars_ten_toDigits]

theorem macroNumber?_of_mem {text name : String} {n : Nat}
    (hnames : ((definedIn text).map Prod.fst).Nodup) (h : (name, toString n) ∈ definedIn text) :
    macroNumber? text name = some n := by
  rw [macroNumber?, (lookup_eq_some_iff_mem hnames).mpr h, Option.bind_some, decimal?_toString]

theorem definedIn_definitionText {definitions : List (String × String)}
    (h : ∀ definition ∈ definitions, IsDirective (definitionLine definition).toList)
    (hnames : ∀ definition ∈ definitions, ' ' ∉ definition.1.toList) :
    definedIn (definitionText definitions) = definitions := by
  rw [definedIn, toList_definitionText, directives_lines (List.forall_mem_map.mpr h),
    List.filterMap_map]
  calc
    definitions.filterMap (fun definition ↦ readDefinition? (definitionLine definition).toList) =
        definitions.filterMap some :=
      List.filterMap_congr fun definition hmem ↦
        readDefinition?_definitionLine (hnames definition hmem) definition.2
    _ = definitions := List.filterMap_some

/-! ## One function -/

section Slot

variable {exportPrefix : String} {slot : Slot}

/-- What the directives for one function define. A return type that ends in a backslash takes in the
line that is to define the parameters. -/
def slotReadings (exportPrefix : String) (slot : Slot) : List (String × String) :=
  if EndsInBackslash slot.signature.returnType.toList then
    [(slot.indexMacro exportPrefix, toString slot.index),
     (slot.returnMacro exportPrefix, slot.signature.returnType ++ "\n" ++
        definitionLine (slot.parametersMacro exportPrefix, slot.signature.parameters))]
  else slotDefinitions exportPrefix slot

theorem filterMap_slotDirectives (h : isIdentifier (slot.symbol exportPrefix)) :
    (slotDirectives exportPrefix slot).filterMap readDefinition? =
      slotReadings exportPrefix slot := by
  have hindex := readDefinition?_definitionLine
    (not_mem_of_isIdentifier (isIdentifier_indexMacro h) (by decide))
  have hreturn := readDefinition?_definitionLine
    (not_mem_of_isIdentifier (isIdentifier_returnMacro h) (by decide))
  have hparameters := readDefinition?_definitionLine
    (not_mem_of_isIdentifier (isIdentifier_parametersMacro h) (by decide))
  have hlonger (name value rest : String) : (definitionLine (name, value)).toList ++
      '\n' :: rest.toList = (definitionLine (name, value ++ "\n" ++ rest)).toList := by
    simp [definitionLine]
  rw [slotDirectives, slotReadings, slotDefinitions]
  split
  · simp only [hlonger, List.filterMap_cons, List.filterMap_nil, hindex, hreturn]
  · simp only [List.filterMap_cons, List.filterMap_nil, hindex, hreturn, hparameters]

/-- No other names are defined than those that describe the function. -/
theorem map_fst_slotReadings_sublist (exportPrefix : String) (slot : Slot) :
    ((slotReadings exportPrefix slot).map Prod.fst).Sublist
      ((slotDefinitions exportPrefix slot).map Prod.fst) := by
  rw [slotReadings]
  split
  · exact List.sublist_append_left [_, _] [_]
  · exact .refl _

theorem indexDefinition_mem (exportPrefix : String) (slot : Slot) :
    (slot.indexMacro exportPrefix, toString slot.index) ∈ slotReadings exportPrefix slot := by
  rw [slotReadings]
  split <;> exact List.mem_cons_self

theorem returnDefinition_mem (h : ¬ EndsInBackslash slot.signature.returnType.toList) :
    (slot.returnMacro exportPrefix, slot.signature.returnType) ∈
      slotReadings exportPrefix slot := by
  rw [slotReadings, if_neg h]
  exact List.mem_cons_of_mem _ List.mem_cons_self

theorem parametersDefinition_mem (h : ¬ EndsInBackslash slot.signature.returnType.toList) :
    (slot.parametersMacro exportPrefix, slot.signature.parameters) ∈
      slotReadings exportPrefix slot := by
  rw [slotReadings, if_neg h]
  exact List.mem_cons_of_mem _ (List.mem_cons_of_mem _ List.mem_cons_self)

end Slot

/-! ## The block -/

/-- The block of a header that the provider and the consumers share. -/
def sharedMacros (interface : Interface) : String :=
  interface.functionMacros ++ "\n" ++ interface.countDefinition

/-- The macros with which consumers call the functions. -/
def callMacros (interface : Interface) : String :=
  String.join (interface.slots.map (callMacro interface.names))

/-- The block, the initializer and the call macros stand in the header as they are. -/
theorem exists_header_eq_sharedMacros (interface : Interface) (typeDefinitions : String) :
    ∃ before provider consumer after, interface.header typeDefinitions =
      before ++ "/* C API functions */\n" ++ interface.sharedMacros ++ provider ++
        interface.initializer ++ consumer ++ interface.callMacros ++ after := by
  let names := interface.names
  refine ⟨s!"#ifndef {names.guard}\n#define {names.guard}\n\n" ++ banner ++
      interface.doc.elim "" docComment ++ "\n" ++
      String.ofList (Text.trimEnd typeDefinitions.toList) ++ "\n\n" ++
      "#ifdef __cplusplus\nextern \"C\" \x7b\n#endif\n\n",
    "\n" ++ s!"#ifdef {names.moduleFlag}\n" ++
      "/* This section is used when compiling the provider module */\n\n" ++
      String.join (interface.slots.map (slotPrototype interface.names.exportPrefix)) ++ "\n",
    "\n#else\n" ++ "/* This section is used in modules that use the provider's API */\n\n",
    "\n" ++ importSection interface.names ++ "#endif\n\n" ++
      "#ifdef __cplusplus\n\x7d\n#endif\n" ++ s!"#endif /* !defined({names.guard}) */\n", ?_⟩
  delta header providerSection consumerSection sharedMacros callMacros
  simp only [String.append_assoc, names]

/-- The symbols are identifiers, and the texts of the functions fit into their directives. -/
def FitsHeader (interface : Interface) : Prop :=
  ∀ slot ∈ interface.slots, FitsDirectives interface.names.exportPrefix slot.signature

/-- Everything that is extracted fits. -/
theorem fitsHeader_of_extractSignatures {names : Names} {source : String}
    {signatures : List Signature} (doc : Option String)
    (h : extractSignatures names.exportPrefix source = .ok signatures) :
    FitsHeader ⟨names, Slot.assign signatures, doc⟩ :=
  forall_mem_assign (fitsDirectives_of_extractSignatures h)

variable {interface : Interface}

theorem definedIn_countDefinition (h : isIdentifier interface.names.exportPrefix) :
    definedIn interface.countDefinition =
      [(interface.names.countMacro, toString interface.size)] := by
  have hcount := isIdentifier_countMacro h
  have htext : interface.countDefinition.toList =
      '/' :: "* Total number of C API pointers */".toList ++ '\n' ::
        ((definitionLine (interface.names.countMacro, toString interface.size)).toList ++
          '\n' :: []) := by
    simp [countDefinition_eq, definitionText_singleton, define_eq]
  rw [definedIn, htext, directives_line (by decide) (.of_not_mem (by decide)) (by decide),
    directives_cons (isDirective_definitionLine_toString hcount _), directives,
    List.filterMap_cons_none (by decide), List.filterMap_cons_some
      (readDefinition?_definitionLine (not_mem_of_isIdentifier hcount (by decide)) _),
    List.filterMap_nil]

theorem macroNumber?_countDefinition (h : isIdentifier interface.names.exportPrefix) :
    macroNumber? interface.countDefinition interface.names.countMacro = some interface.size := by
  apply macroNumber?_of_mem
  · rw [definedIn_countDefinition h]
    exact List.nodup_singleton _
  · rw [definedIn_countDefinition h]
    exact List.mem_singleton_self _

theorem definedIn_sharedMacros (h : isIdentifier interface.names.exportPrefix)
    (hfits : interface.FitsHeader) :
    definedIn interface.sharedMacros =
      interface.slots.flatMap (slotReadings interface.names.exportPrefix) ++
        [(interface.names.countMacro, toString interface.size)] := by
  have hdirectives : ∀ text ∈ interface.slots.flatMap
      (slotDirectives interface.names.exportPrefix), IsDirective text := by
    intro text htext
    obtain ⟨slot, hslot, htext⟩ := List.mem_flatMap.mp htext
    exact isDirective_slotDirectives (hfits slot hslot) text htext
  have htext : interface.sharedMacros.toList =
      (interface.slots.flatMap (slotDirectives interface.names.exportPrefix)).flatMap
        (· ++ ['\n']) ++ '\n' :: interface.countDefinition.toList := by
    simp [sharedMacros, toList_functionMacros]
  rw [definedIn, htext, directives_lines_append hdirectives, directives_feed,
    List.filterMap_append, List.filterMap_flatMap]
  congr 1
  · exact List.flatMap_congr fun slot hslot ↦
      filterMap_slotDirectives (hfits slot hslot).isIdentifier
  · exact definedIn_countDefinition h

theorem nodup_definedIn_sharedMacros (h : isIdentifier interface.names.exportPrefix)
    (hfits : interface.FitsHeader) (hnames : interface.functionNames.Nodup) :
    ((definedIn interface.sharedMacros).map Prod.fst).Nodup := by
  refine (nodup_sharedDefinitions hnames).sublist ?_
  rw [definedIn_sharedMacros h hfits, sharedDefinitions, List.map_append, List.map_append,
    functionDefinitions, List.map_flatMap, List.map_flatMap]
  refine List.Sublist.append ?_ (.refl _)
  exact List.Sublist.flatMap_right _ fun slot _ ↦ map_fst_slotReadings_sublist _ slot

/-! ## Looking macros up -/

section Valid

variable (hvalid : interface.Valid) (hfits : interface.FitsHeader)

include hvalid hfits

theorem lookup_sharedMacros {slot : Slot} (hslot : slot ∈ interface.slots)
    {definition : String × String}
    (h : definition ∈ slotReadings interface.names.exportPrefix slot) :
    (definedIn interface.sharedMacros).lookup definition.1 = some definition.2 := by
  have hstart := hvalid.isIdentifier .exportPrefix (by decide)
  rw [lookup_eq_some_iff_mem
    (nodup_definedIn_sharedMacros hstart hfits hvalid.nodup_functionNames),
    definedIn_sharedMacros hstart hfits]
  exact List.mem_append_left _ (List.mem_flatMap.mpr ⟨slot, hslot, h⟩)

theorem macroNumber?_indexMacro {slot : Slot} (hslot : slot ∈ interface.slots) :
    macroNumber? interface.sharedMacros (slot.indexMacro interface.names.exportPrefix) =
      some slot.index := by
  rw [macroNumber?, lookup_sharedMacros hvalid hfits hslot (indexDefinition_mem _ slot),
    Option.bind_some, decimal?_toString]

theorem macroNumber?_countMacro :
    macroNumber? interface.sharedMacros interface.names.countMacro = some interface.size := by
  have hstart := hvalid.isIdentifier .exportPrefix (by decide)
  apply macroNumber?_of_mem
    (nodup_definedIn_sharedMacros hstart hfits hvalid.nodup_functionNames)
  rw [definedIn_sharedMacros hstart hfits]
  exact List.mem_append_right _ (List.mem_singleton_self _)

end Valid

end ExportTable.Interface
