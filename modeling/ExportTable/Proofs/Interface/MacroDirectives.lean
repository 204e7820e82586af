import ExportTable.Proofs.Extraction.SignatureTexts
import ExportTable.Proofs.Interface.Macros

/-!
# The directives of the functions' macros

Three lines define the macros of a function. Whatever its signature holds, the line of the index and
that of the parameters end a directive. The line of the return type does not if the return type ends
in a backslash: the definition of the parameters is then part of it, so two directives are left.
-/

namespace ExportTable.Interface

open CSource Extraction

/-! ## One function -/

theorem continued_definitionLine {name value : String} (hname : isIdentifier name)
    (hvalue : Continued value.toList) : Continued (definitionLine (name, value)).toList := by
  have hfeed : '\n' ∉ name.toList := not_mem_of_isIdentifier hname (by decide)
  have hfront : Continued ("#define " ++ name ++ " ").toList :=
    .of_not_mem (by simp [hfeed])
  rw [definitionLine, String.toList_append]
  exact hfront.append hvalue

theorem endsInBackslash_definitionLine {name value : String} :
    EndsInBackslash (definitionLine (name, value)).toList ↔ EndsInBackslash value.toList := by
  have hline : (definitionLine (name, value)).toList =
      ("#define " ++ name).toList ++ ' ' :: value.toList := by
    simp [definitionLine]
  rw [hline]
  exact endsInBackslash_append_cons (by decide) (by decide)

/-- The directives that define the macros of one function. -/
def slotDirectives (exportPrefix : String) (slot : Slot) : List (List Char) :=
  let index := (definitionLine (slot.indexMacro exportPrefix, toString slot.index)).toList
  let returnType :=
    (definitionLine (slot.returnMacro exportPrefix, slot.signature.returnType)).toList
  let parameters :=
    (definitionLine (slot.parametersMacro exportPrefix, slot.signature.parameters)).toList
  if EndsInBackslash slot.signature.returnType.toList then
    [index, returnType ++ '\n' :: parameters]
  else [index, returnType, parameters]

theorem toList_definitionText_slot (exportPrefix : String) (slot : Slot) :
    (definitionText (slotDefinitions exportPrefix slot)).toList =
      (slotDirectives exportPrefix slot).flatMap (· ++ ['\n']) := by
  rw [toList_definitionText, slotDefinitions, slotDirectives]
  split <;> simp

theorem length_slotDirectives (exportPrefix : String) (slot : Slot) :
    (slotDirectives exportPrefix slot).length =
      if EndsInBackslash slot.signature.returnType.toList then 2 else 3 := by
  rw [slotDirectives]
  split <;> rfl

theorem isDirective_definitionLine {name value : String} (hname : isIdentifier name)
    (hvalue : Continued value.toList) (hend : ¬ EndsInBackslash value.toList) :
    IsDirective (definitionLine (name, value)).toList where
  mark := by simp [definitionLine]
  continued := continued_definitionLine hname hvalue
  ends := endsInBackslash_definitionLine.not.mpr hend

theorem isDirective_definitionLine_toString {name : String} (hname : isIdentifier name) (n : Nat) :
    IsDirective (definitionLine (name, toString n)).toList := by
  apply isDirective_definitionLine hname
  · apply Continued.of_not_mem
    intro hmem
    exact absurd (isDigit_of_mem_toString hmem) (by decide)
  · intro hend
    exact absurd (isDigit_of_mem_toString hend.mem) (by decide)

theorem isDirective_slotDirectives {exportPrefix : String} {slot : Slot}
    (h : FitsDirectives exportPrefix slot.signature) :
    ∀ text ∈ slotDirectives exportPrefix slot, IsDirective text := by
  have hindex := isDirective_definitionLine_toString (isIdentifier_indexMacro h.isIdentifier)
    slot.index
  have hparameters := isDirective_definitionLine
    (isIdentifier_parametersMacro h.isIdentifier) h.parameters h.parameters_end
  rw [slotDirectives]
  split
  next hend =>
    have hreturn := continued_definitionLine (isIdentifier_returnMacro h.isIdentifier) h.returnType
    have hfeed := hreturn.append_feed (endsInBackslash_definitionLine.mpr hend)
    rw [List.forall_mem_cons, List.forall_mem_singleton]
    refine ⟨hindex, ?_, ?_, ?_⟩
    · simp [definitionLine]
    · simpa using hfeed.append hparameters.continued
    · rw [endsInBackslash_append_cons (by decide) (by decide)]
      exact hparameters.ends
  next hend =>
    have hreturn := isDirective_definitionLine
      (isIdentifier_returnMacro h.isIdentifier) h.returnType hend
    rw [List.forall_mem_cons, List.forall_mem_cons, List.forall_mem_singleton]
    exact ⟨hindex, hreturn, hparameters⟩

/-! ## All functions -/

theorem toList_functionMacros (interface : Interface) :
    interface.functionMacros.toList =
      (interface.slots.flatMap (slotDirectives interface.names.exportPrefix)).flatMap
        (· ++ ['\n']) := by
  rw [functionMacros_eq, functionDefinitions]
  induction interface.slots with
  | nil => rfl
  | cons slot slots ih =>
    rw [List.flatMap_cons, definitionText_append, String.toList_append, toList_definitionText_slot,
      ih, List.flatMap_cons, List.flatMap_append]

theorem directives_functionMacros {interface : Interface}
    (h : ∀ slot ∈ interface.slots, FitsDirectives interface.names.exportPrefix slot.signature) :
    directives interface.functionMacros.toList =
      interface.slots.flatMap (slotDirectives interface.names.exportPrefix) := by
  rw [toList_functionMacros]
  apply directives_lines
  intro text htext
  obtain ⟨slot, hslot, htext⟩ := List.mem_flatMap.mp htext
  exact isDirective_slotDirectives (h slot hslot) text htext

theorem length_flatMap_slotDirectives (exportPrefix : String) (slots : List Slot) :
    (slots.flatMap (slotDirectives exportPrefix)).length +
        slots.countP (fun slot ↦ EndsInBackslash slot.signature.returnType.toList) =
      3 * slots.length := by
  induction slots with
  | nil => rfl
  | cons slot slots ih =>
    rw [List.flatMap_cons, List.length_append, length_slotDirectives, List.countP_cons,
      List.length_cons]
    by_cases hend : EndsInBackslash slot.signature.returnType.toList
    · simp only [hend, if_true, decide_true]
      omega
    · simp only [hend, if_false, decide_false, Bool.false_eq_true]
      omega

/-- Assigned slots have the properties of their signatures. -/
theorem forall_mem_assign {p : Signature → Prop} {signatures : List Signature}
    (h : ∀ f ∈ signatures, p f) : ∀ slot ∈ Slot.assign signatures, p slot.signature := by
  intro slot hslot
  apply h
  rw [← Slot.map_signature_assign signatures]
  exact List.mem_map_of_mem hslot

/-- The macros of extracted functions are three directives for each function, but for one less
wherever a return type ends in a backslash: there the definition of the parameters is part of the
directive before it. -/
theorem length_directives_functionMacros {names : Names} {source : String}
    {signatures : List Signature}
    (h : extractSignatures names.exportPrefix source = .ok signatures) (doc : Option String) :
    directives (⟨names, Slot.assign signatures, doc⟩ : Interface).functionMacros.toList =
        (Slot.assign signatures).flatMap (slotDirectives names.exportPrefix) ∧
      (directives (⟨names, Slot.assign signatures, doc⟩ : Interface).functionMacros.toList).length +
        signatures.countP (fun f ↦ EndsInBackslash f.returnType.toList) =
          3 * signatures.length := by
  have hdirectives :
      directives (⟨names, Slot.assign signatures, doc⟩ : Interface).functionMacros.toList =
        (Slot.assign signatures).flatMap (slotDirectives names.exportPrefix) :=
    directives_functionMacros (forall_mem_assign (fitsDirectives_of_extractSignatures h))
  have hsame (p : Signature → Bool) :
      signatures.countP p = (Slot.assign signatures).countP (p ∘ Slot.signature) := by
    rw [← List.countP_map, Slot.map_signature_assign]
  have hsize : (Slot.assign signatures).length = signatures.length := by
    simp [Slot.assign]
  refine ⟨hdirectives, ?_⟩
  rw [hdirectives, hsame, ← hsize]
  exact length_flatMap_slotDirectives names.exportPrefix (Slot.assign signatures)

/-- The return type is on a line of its own, which a backslash continues. -/
def splicedSample : String :=
  "static int \\\nBhAPI_f(void) \x7b \x7d static int BhAPI_g(void) \x7b \x7d"

def splicedSignatures : List Signature := [⟨"int \\", "f", "(void)"⟩, ⟨"int", "g", "(void)"⟩]

theorem extractSignatures_splicedSample :
    extractSignatures ({} : Names).exportPrefix splicedSample = .ok splicedSignatures := by
  decide +kernel

theorem length_directives_functionMacros_splicedSample :
    extractSignatures ({} : Names).exportPrefix splicedSample = .ok splicedSignatures ∧
      (directives
        (⟨{}, Slot.assign splicedSignatures, none⟩ : Interface).functionMacros.toList).length =
          5 := by
  have hcount : splicedSignatures.countP (fun f ↦ EndsInBackslash f.returnType.toList) = 1 := by
    decide +kernel
  obtain ⟨_, hlength⟩ :=
    length_directives_functionMacros extractSignatures_splicedSample none
  have hsize : 3 * splicedSignatures.length = 5 + 1 := rfl
  rw [hcount, hsize] at hlength
  exact ⟨extractSignatures_splicedSample, Nat.add_right_cancel hlength⟩

/-- A return type can make its definition run on into the next one. -/
theorem directives_run_on : ¬ ∀ (names : Names) (source : String) (signatures : List Signature),
    extractSignatures names.exportPrefix source = .ok signatures →
    (directives (⟨names, Slot.assign signatures, none⟩ : Interface).functionMacros.toList).length =
      3 * signatures.length := by
  intro h
  have hfits := fitsDirectives_of_extractSignatures extractSignatures_splicedSample
  have hdirectives : directives
      (⟨{}, Slot.assign splicedSignatures, none⟩ : Interface).functionMacros.toList =
        (Slot.assign splicedSignatures).flatMap (slotDirectives "BhAPI") :=
    directives_functionMacros (forall_mem_assign hfits)
  have hcontinued : (Slot.assign splicedSignatures).countP
      (fun slot ↦ EndsInBackslash slot.signature.returnType.toList) = 1 := by
    decide +kernel
  have hcount := length_flatMap_slotDirectives "BhAPI" (Slot.assign splicedSignatures)
  have hlength := h {} splicedSample splicedSignatures extractSignatures_splicedSample
  rw [hcontinued, ← hdirectives, hlength] at hcount
  exact absurd hcount (by decide)

end ExportTable.Interface
