import ExportTable.Proofs.NameMap
import ExportTable.Proofs.Operation.NativeRows
import Mathlib.Data.List.Perm.Basic

/-!
# Compiling opcodes

A table of opcodes compiles exactly if every opcode that is not a system opcode has a public name and
no two of them share one. Each of these opcodes then gives one operation, under its public name, and
there are no other operations. Otherwise the first opcode in table order that has no public name, or
whose public name is taken by an opcode before it, is the fault.
-/

namespace ExportTable.Opcode

variable {types : List ElementType} {opcodePrefix : String}

/-! ## Public names -/

/-- What follows the prefix, in lower case; something has to follow it. -/
def IsPublicName (opcodePrefix : String) (opcode : Opcode) (name : String) : Prop :=
  ∃ rest, rest ≠ "" ∧ opcode.name = opcodePrefix ++ rest ∧ name = Text.lowercase rest

theorem IsPublicName.unique {opcode : Opcode} {name other : String}
    (h : IsPublicName opcodePrefix opcode name) (hother : IsPublicName opcodePrefix opcode other) :
    name = other := by
  obtain ⟨rest, _, hrest, rfl⟩ := h
  obtain ⟨tail, _, htail, rfl⟩ := hother
  rw [hrest] at htail
  rw [(String.append_right_inj opcodePrefix).mp htail]

/-- An opcode without a public name is reported with its id. -/
theorem publicName_cases (opcodePrefix : String) (opcode : Opcode) :
    (∃ name, opcode.publicName opcodePrefix = .ok name ∧
      IsPublicName opcodePrefix opcode name) ∨
    (opcode.publicName opcodePrefix =
        .error (.missingPrefix opcode.name opcode.id opcodePrefix) ∧
      ∀ name, ¬ IsPublicName opcodePrefix opcode name) := by
  have hsplit (rest : String) : opcode.name = opcodePrefix ++ rest ↔
      opcodePrefix.toList.isPrefixOf? opcode.name.toList = some rest.toList := by
    rw [List.isPrefixOf?_eq_some_iff_append_eq, ← String.toList_append, String.toList_inj, eq_comm]
  unfold publicName IsPublicName
  split
  next hnone =>
    refine .inr ⟨rfl, ?_⟩
    rintro name ⟨rest, _, hrest, _⟩
    rw [hsplit, hnone] at hrest
    cases hrest
  next hnil =>
    refine .inr ⟨rfl, ?_⟩
    rintro name ⟨rest, hne, hrest, _⟩
    rw [hsplit, hnil, Option.some.injEq] at hrest
    exact hne (String.toList_inj.mp hrest.symm)
  next rest hne hrest =>
    refine .inl ⟨_, rfl, String.ofList rest, ?_, ?_, rfl⟩
    · rintro hempty
      exact hne (by simpa using congrArg String.toList hempty)
    · rw [hsplit, hrest, String.toList_ofList]

/-- Each opcode has a public name, and no two have the same one. -/
structure Compilable (opcodePrefix : String) (opcodes : List Opcode) : Prop where
  named : ∀ opcode ∈ opcodes, ∃ name, IsPublicName opcodePrefix opcode name
  distinct : opcodes.Pairwise fun first second ↦
    ∀ name, IsPublicName opcodePrefix first name → ¬ IsPublicName opcodePrefix second name

namespace Compilable

theorem nil : Compilable opcodePrefix [] := ⟨by simp, .nil⟩

theorem append_singleton {before : List Opcode} {opcode : Opcode} {name : String}
    (h : Compilable opcodePrefix before) (hname : IsPublicName opcodePrefix opcode name)
    (hnew : ∀ first ∈ before, ¬ IsPublicName opcodePrefix first name) :
    Compilable opcodePrefix (before ++ [opcode]) where
  named := by
    intro other hother
    rcases List.mem_append.mp hother with hmem | hmem
    · exact h.named other hmem
    · obtain rfl := List.mem_singleton.mp hmem
      exact ⟨name, hname⟩
  distinct := by
    refine List.pairwise_append.mpr ⟨h.distinct, List.pairwise_singleton _ _, ?_⟩
    intro first hfirst second hsecond taken htaken hagain
    obtain rfl := List.mem_singleton.mp hsecond
    obtain rfl := hname.unique hagain
    exact hnew first hfirst htaken

end Compilable

/-! ## Faults -/

/-- Why an opcode cannot be compiled after the opcodes `before`. -/
inductive Fault (opcodePrefix : String) (before : List Opcode) (opcode : Opcode) :
    CompileError → Prop
  | missingPrefix (hunnamed : ∀ name, ¬ IsPublicName opcodePrefix opcode name) :
      Fault opcodePrefix before opcode (.missingPrefix opcode.name opcode.id opcodePrefix)
  | duplicateName {first : Opcode} {name : String} (hfirst : first ∈ before)
      (htaken : IsPublicName opcodePrefix first name)
      (hagain : IsPublicName opcodePrefix opcode name) :
      Fault opcodePrefix before opcode (.duplicateName name first.name opcode.name)

def FirstFault (opcodePrefix : String) (opcodes : List Opcode) (e : CompileError) : Prop :=
  ∃ before opcode after, opcodes = before ++ opcode :: after ∧ Compilable opcodePrefix before ∧
    Fault opcodePrefix before opcode e

theorem FirstFault.not_compilable {opcodes : List Opcode} {e : CompileError}
    (h : FirstFault opcodePrefix opcodes e) : ¬ Compilable opcodePrefix opcodes := by
  intro hcompilable
  obtain ⟨before, opcode, after, rfl, _, hfault⟩ := h
  cases hfault with
  | missingPrefix hunnamed =>
    have hmem : opcode ∈ before ++ opcode :: after :=
      List.mem_append_right _ List.mem_cons_self
    obtain ⟨name, hname⟩ := hcompilable.named opcode hmem
    exact hunnamed name hname
  | @duplicateName first name hfirst htaken hagain =>
    have hapart := (List.pairwise_append.mp hcompilable.distinct).2.2
    exact hapart first hfirst opcode List.mem_cons_self name htaken hagain

/-! ## Operations -/

/-- The binding for an opcode: its public name and its operation. -/
structure Describes (types : List ElementType) (opcodePrefix : String) (opcode : Opcode)
    (binding : String × Operation) : Prop where
  isPublicName : IsPublicName opcodePrefix opcode binding.1
  name_eq : binding.2.name = binding.1
  id_eq : binding.2.id = opcode.id
  operands_eq : binding.2.operands = opcode.operands
  elementwise_eq : binding.2.elementwise = opcode.elementwise
  translates : Translates types opcode.rows binding.2.rows

theorem describes_operation {opcode : Opcode} {name : String}
    (h : IsPublicName opcodePrefix opcode name) :
    Describes types opcodePrefix opcode (name, opcode.operation types name) where
  isPublicName := h
  name_eq := rfl
  id_eq := rfl
  operands_eq := rfl
  elementwise_eq := rfl
  translates := translates_filterMap types opcode.rows

def bindings (operations : List Operation) : List (String × Operation) :=
  operations.map fun operation ↦ (operation.name, operation)

/-- The names that are taken, with the opcodes that took them. -/
def Taken (opcodePrefix : String) (before : List Opcode) (earlier : List (String × String)) :
    Prop :=
  ∀ name first, earlier.lookup name = some first ↔
    ∃ opcode ∈ before, IsPublicName opcodePrefix opcode name ∧ opcode.name = first

theorem Taken.cons {before : List Opcode} {earlier : List (String × String)} {opcode : Opcode}
    {name : String} (h : Taken opcodePrefix before earlier)
    (hname : IsPublicName opcodePrefix opcode name) (hnew : earlier.lookup name = none) :
    Taken opcodePrefix (before ++ [opcode]) ((name, opcode.name) :: earlier) := by
  intro other first
  rw [List.lookup_cons]
  by_cases hother : other = name
  · subst hother
    have hfree : ∀ taken ∈ before, ¬ IsPublicName opcodePrefix taken other := by
      intro taken hmem htaken
      have hlookup := (h other taken.name).mpr ⟨taken, hmem, htaken, rfl⟩
      rw [hnew] at hlookup
      cases hlookup
    constructor
    · intro hfirst
      rw [beq_self_eq_true, Option.some.injEq] at hfirst
      exact ⟨opcode, List.mem_append_right _ (List.mem_singleton_self _), hname, hfirst⟩
    · rintro ⟨taken, hmem, htaken, rfl⟩
      rcases List.mem_append.mp hmem with hbefore | hlast
      · exact absurd htaken (hfree taken hbefore)
      · rw [List.mem_singleton.mp hlast, beq_self_eq_true]
  · rw [beq_eq_false_iff_ne.mpr hother]
    refine (h other first).trans (exists_congr fun taken ↦ ?_)
    rw [List.mem_append, List.mem_singleton]
    constructor
    · rintro ⟨hmem, htaken⟩
      exact ⟨.inl hmem, htaken⟩
    · rintro ⟨hmem | rfl, htaken⟩
      · exact ⟨hmem, htaken⟩
      · exact absurd (htaken.1.unique hname) hother

/-- The opcodes after `before` all become operations, or the first fault is found. -/
theorem operationsAfter_cases (types : List ElementType) {before : List Opcode}
    {earlier : List (String × String)} (hbefore : Compilable opcodePrefix before)
    (htaken : Taken opcodePrefix before earlier) (opcodes : List Opcode) :
    (∃ operations, operationsAfter types opcodePrefix earlier opcodes = .ok operations ∧
      Compilable opcodePrefix (before ++ opcodes) ∧
      List.Forall₂ (Describes types opcodePrefix) opcodes (bindings operations)) ∨
    (∃ e, operationsAfter types opcodePrefix earlier opcodes = .error e ∧
      FirstFault opcodePrefix (before ++ opcodes) e) := by
  induction opcodes generalizing before earlier with
  | nil => exact .inl ⟨[], rfl, by rwa [List.append_nil], .nil⟩
  | cons opcode rest ih =>
    rw [operationsAfter]
    rcases publicName_cases opcodePrefix opcode with ⟨name, hname, hpublic⟩ | ⟨hname, hunnamed⟩
    · rw [hname, ok_bind]
      cases hlookup : earlier.lookup name with
      | some first =>
        obtain ⟨taken, hmem, htakenName, rfl⟩ := (htaken name first).mp hlookup
        exact .inr ⟨_, rfl, before, opcode, rest, rfl, hbefore,
          .duplicateName hmem htakenName hpublic⟩
      | none =>
        have hnew : ∀ taken ∈ before, ¬ IsPublicName opcodePrefix taken name := by
          intro taken hmem htakenName
          have hfound := (htaken name taken.name).mpr ⟨taken, hmem, htakenName, rfl⟩
          rw [hlookup] at hfound
          cases hfound
        have hlater := ih (hbefore.append_singleton hpublic hnew) (htaken.cons hpublic hlookup)
        rw [List.append_assoc, List.singleton_append] at hlater
        rcases hlater with ⟨operations, hok, hcompilable, hdescribes⟩ | ⟨e, herror, hfault⟩
        · refine .inl ⟨opcode.operation types name :: operations, ?_, hcompilable, ?_⟩
          · rw [hok]
            rfl
          · exact .cons (describes_operation hpublic) hdescribes
        · refine .inr ⟨e, ?_, hfault⟩
          rw [herror]
          rfl
    · rw [hname]
      exact .inr ⟨_, rfl, before, opcode, rest, rfl, hbefore, .missingPrefix hunnamed⟩

theorem nodup_names {opcodes : List Opcode} {bindings : List (String × Operation)}
    (hcompilable : Compilable opcodePrefix opcodes)
    (hdescribes : List.Forall₂ (Describes types opcodePrefix) opcodes bindings) :
    (bindings.map Prod.fst).Nodup := by
  induction hdescribes with
  | nil => exact .nil
  | @cons opcode binding opcodes bindings hfirst hrest ih =>
    obtain ⟨hapart, hdistinct⟩ := List.pairwise_cons.mp hcompilable.distinct
    rw [List.map_cons, List.nodup_cons]
    refine ⟨?_, ih ⟨(List.forall_mem_cons.mp hcompilable.named).2, hdistinct⟩⟩
    intro hmem
    obtain ⟨other, hother, hsame⟩ := List.mem_map.mp hmem
    obtain ⟨second, hsecond, hdescribed⟩ := exists_of_forall₂ hrest hother
    have hagain : IsPublicName opcodePrefix second binding.1 := hsame ▸ hdescribed.isPublicName
    exact hapart second hsecond binding.1 hfirst.isPublicName hagain

/-- The bindings of the operations, each paired with the opcode that it is for. -/
def Covers (types : List ElementType) (opcodePrefix : String) (opcodes : List Opcode)
    (operations : NameMap Operation) : Prop :=
  ∃ order, order.Perm opcodes ∧
    List.Forall₂ (Describes types opcodePrefix) order operations.bindings

theorem covers_ofList {opcodes : List Opcode} {bindings : List (String × Operation)}
    (hcompilable : Compilable opcodePrefix opcodes)
    (hdescribes : List.Forall₂ (Describes types opcodePrefix) opcodes bindings) :
    Covers types opcodePrefix opcodes (.ofList bindings) := by
  have hperm := NameMap.perm_ofList (nodup_names hcompilable hdescribes)
  obtain ⟨order, hflipped, horder⟩ := List.perm_comp_forall₂ hperm hdescribes.flip
  exact ⟨order, horder, hflipped.flip⟩

theorem compile_cases (types : List ElementType) (opcodePrefix : String) (opcodes : List Opcode) :
    (∃ operations, compile types opcodePrefix opcodes = .ok operations ∧
      Compilable opcodePrefix (Opcode.public opcodes) ∧
      Covers types opcodePrefix (Opcode.public opcodes) operations) ∨
    (∃ e, compile types opcodePrefix opcodes = .error e ∧
      FirstFault opcodePrefix (Opcode.public opcodes) e) := by
  have htaken : Taken opcodePrefix [] [] := by simp [Taken]
  rw [compile]
  rcases operationsAfter_cases types .nil htaken (Opcode.public opcodes) with
    ⟨operations, hok, hcompilable, hdescribes⟩ | ⟨e, herror, hfault⟩
  · rw [hok]
    exact .inl ⟨_, rfl, hcompilable, covers_ofList hcompilable hdescribes⟩
  · rw [herror]
    exact .inr ⟨e, rfl, hfault⟩

/-- Compilation succeeds exactly on the tables whose opcodes have distinct public names. The
operations are then those of the opcodes, one for each; otherwise the error is the first fault. -/
theorem compile_exact (types : List ElementType) (opcodePrefix : String) (opcodes : List Opcode) :
    ((∃ operations, compile types opcodePrefix opcodes = .ok operations) ↔
      Compilable opcodePrefix (Opcode.public opcodes)) ∧
    (∀ operations, compile types opcodePrefix opcodes = .ok operations →
      Covers types opcodePrefix (Opcode.public opcodes) operations) ∧
    ∀ e, compile types opcodePrefix opcodes = .error e →
      FirstFault opcodePrefix (Opcode.public opcodes) e := by
  rcases compile_cases types opcodePrefix opcodes with
    ⟨operations, hok, hcompilable, hcovers⟩ | ⟨e, herror, hfault⟩
  · refine ⟨iff_of_true ⟨operations, hok⟩ hcompilable, ?_, ?_⟩
    · intro others hothers
      obtain rfl := Except.ok.inj (hok.symm.trans hothers)
      exact hcovers
    · intro e he
      cases hok.symm.trans he
  · refine ⟨iff_of_false ?_ hfault.not_compilable, ?_, ?_⟩
    · rintro ⟨operations, hok⟩
      cases herror.symm.trans hok
    · intro operations hok
      cases herror.symm.trans hok
    · intro other hother
      obtain rfl := Except.error.inj (herror.symm.trans hother)
      exact hfault

/-- One tag has a native name only in its second entry, and another name in its third. -/
def sampleTypes : List ElementType :=
  [⟨"BH_INT", "unknown"⟩, ⟨"BH_BOOL", "bool"⟩, ⟨"BH_INT", "int32"⟩, ⟨"BH_INT", "int64"⟩,
   ⟨"BH_STR", ""⟩]

/-- The system opcodes would be faults if they were compiled. -/
def sampleOpcodes : List Opcode :=
  [⟨"BH_LESS", 7, 3, true, false, [["BH_BOOL", "BH_INT"], ["BH_STR"], [], ["BH_BOOL", "BH_INT"]]⟩,
   ⟨"BH_less", 0, 0, false, true, []⟩, ⟨"FREE", 1, 1, false, true, []⟩,
   ⟨"BH_ADD", 5, 2, false, false, [["BH_FLOAT"]]⟩]

def sampleOperations : NameMap Operation :=
  .ofList [("add", ⟨"add", 5, 2, false, []⟩),
    ("less", ⟨"less", 7, 3, true, [["bool", "int32"], [], ["bool", "int32"]]⟩)]

theorem compile_exact_sampleOpcodes :
    compile sampleTypes "BH_" sampleOpcodes = .ok sampleOperations ∧
    Compilable "BH_" (Opcode.public sampleOpcodes) ∧
    Covers sampleTypes "BH_" (Opcode.public sampleOpcodes) sampleOperations := by
  have hcompile : compile sampleTypes "BH_" sampleOpcodes = .ok sampleOperations := by
    decide +kernel
  obtain ⟨hcompilable, hcovers, _⟩ := compile_exact sampleTypes "BH_" sampleOpcodes
  exact ⟨hcompile, hcompilable.mp ⟨_, hcompile⟩, hcovers _ hcompile⟩

end ExportTable.Opcode
