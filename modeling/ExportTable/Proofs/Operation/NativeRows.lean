import ExportTable.Operation
import ExportTable.Proofs.Result
import Mathlib.Data.List.Forall2

/-!
# Rows of native type names

The native name of a tag stands in the first entry of the type table that has this tag and a native
name; entries of the same tag without a native name count for nothing. A row is kept exactly if all
its tags have native names, and each tag is then replaced by its name.
-/

namespace ExportTable

namespace ElementType

/-- The first entry with the tag that has a native name has this one. -/
def IsNative (types : List ElementType) (tag native : String) : Prop :=
  ∃ before t after, types = before ++ t :: after ∧ t.tag = tag ∧ t.native = native ∧
    native ≠ "" ∧ native ≠ unknownName ∧
    ∀ u ∈ before, u.tag = tag → u.native = "" ∨ u.native = unknownName

def IsMapped (types : List ElementType) (tag : String) : Prop :=
  ∃ t ∈ types, t.tag = tag ∧ t.native ≠ "" ∧ t.native ≠ unknownName

instance (types : List ElementType) (tag : String) : Decidable (IsMapped types tag) :=
  inferInstanceAs (Decidable (∃ t ∈ types, t.tag = tag ∧ t.native ≠ "" ∧ t.native ≠ unknownName))

theorem nativeName?_eq_none_iff {t : ElementType} :
    t.nativeName? = none ↔ t.native = "" ∨ t.native = unknownName := by
  unfold nativeName?
  split
  next hnone => exact iff_of_true rfl hnone
  next hnative => exact iff_of_false (Option.some_ne_none _) hnative

theorem nativeName?_eq_some_iff {t : ElementType} {native : String} :
    t.nativeName? = some native ↔
      t.native = native ∧ native ≠ "" ∧ native ≠ unknownName := by
  unfold nativeName?
  split
  next hnone =>
    simp only [reduceCtorEq, false_iff, not_and]
    rintro rfl hempty hunknown
    exact hnone.elim hempty hunknown
  next hnative =>
    rw [Option.some.injEq]
    constructor
    · rintro rfl
      exact ⟨rfl, not_or.mp hnative⟩
    · exact And.left

theorem nativeOf?_eq_some_iff {types : List ElementType} {tag native : String} :
    nativeOf? types tag = some native ↔ IsNative types tag native := by
  have hfound (t : ElementType) : (if t.tag = tag then t.nativeName? else none) = some native ↔
      t.tag = tag ∧ t.native = native ∧ native ≠ "" ∧ native ≠ unknownName := by
    by_cases htag : t.tag = tag
    · simp [htag, nativeName?_eq_some_iff]
    · simp [htag]
  have hpassed (u : ElementType) : (if u.tag = tag then u.nativeName? else none) = none ↔
      (u.tag = tag → u.native = "" ∨ u.native = unknownName) := by
    by_cases htag : u.tag = tag
    · simp [htag, nativeName?_eq_none_iff]
    · simp [htag]
  rw [nativeOf?, List.findSome?_eq_some_iff]
  simp only [hfound, hpassed, IsNative, and_assoc]

theorem isMapped_iff {types : List ElementType} {tag : String} :
    IsMapped types tag ↔ ∃ native, IsNative types tag native := by
  have hsome : (nativeOf? types tag).isSome ↔ IsMapped types tag := by
    rw [nativeOf?, List.findSome?_isSome_iff]
    apply exists_congr
    intro t
    apply and_congr_right
    intro _
    by_cases htag : t.tag = tag
    · rw [if_pos htag, Option.isSome_iff_exists]
      simp [nativeName?_eq_some_iff, htag]
    · simp [htag]
  rw [← hsome, Option.isSome_iff_exists]
  exact exists_congr fun native ↦ nativeOf?_eq_some_iff

end ElementType

namespace Opcode

open ElementType

/-- The rows of mapped tags, in order, with the native name for each tag. -/
def Translates (types : List ElementType) (rows natives : List (List String)) : Prop :=
  List.Forall₂ (List.Forall₂ (IsNative types))
    (rows.filter fun row ↦ ∀ tag ∈ row, IsMapped types tag) natives

theorem nativeRow?_eq_some_iff {types : List ElementType} {row natives : List String} :
    nativeRow? types row = some natives ↔ List.Forall₂ (IsNative types) row natives := by
  rw [nativeRow?, mapM_eq_some_iff_forall₂]
  simp only [nativeOf?_eq_some_iff]

theorem isMapped_of_nativeRow? {types : List ElementType} {row natives : List String}
    (h : nativeRow? types row = some natives) : ∀ tag ∈ row, IsMapped types tag := by
  rw [nativeRow?_eq_some_iff] at h
  induction h with
  | nil => simp
  | cons hfirst _ ih => exact List.forall_mem_cons.mpr ⟨isMapped_iff.mpr ⟨_, hfirst⟩, ih⟩

theorem exists_nativeRow? {types : List ElementType} {row : List String}
    (h : ∀ tag ∈ row, IsMapped types tag) : ∃ natives, nativeRow? types row = some natives := by
  simp only [nativeRow?_eq_some_iff]
  induction row with
  | nil => exact ⟨[], .nil⟩
  | cons tag rest ih =>
    obtain ⟨htag, hrest⟩ := List.forall_mem_cons.mp h
    obtain ⟨native, hnative⟩ := isMapped_iff.mp htag
    obtain ⟨natives, hnatives⟩ := ih hrest
    exact ⟨native :: natives, .cons hnative hnatives⟩

theorem translates_filterMap (types : List ElementType) (rows : List (List String)) :
    Translates types rows (rows.filterMap (nativeRow? types)) := by
  rw [Translates]
  induction rows with
  | nil => exact .nil
  | cons row rest ih =>
    by_cases hmapped : ∀ tag ∈ row, IsMapped types tag
    · obtain ⟨natives, hnatives⟩ := exists_nativeRow? hmapped
      rw [List.filterMap_cons_some hnatives, List.filter_cons_of_pos (by simpa using hmapped)]
      exact .cons (nativeRow?_eq_some_iff.mp hnatives) ih
    · have hnone : nativeRow? types row = none := by
        rw [Option.eq_none_iff_forall_ne_some]
        intro natives hnatives
        exact hmapped (isMapped_of_nativeRow? hnatives)
      rw [List.filterMap_cons_none hnone, List.filter_cons_of_neg (by simpa using hmapped)]
      exact ih

end Opcode

end ExportTable
