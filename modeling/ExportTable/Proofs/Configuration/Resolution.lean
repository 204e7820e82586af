import ExportTable.Configuration
import ExportTable.Proofs.Path

/-!
# Resolved configurations

To put a path below one base and the result below another one is to put it below the joined base,
whatever empty paths, slashes at ends and absolute paths take part. So configurations may be
resolved in steps. Below an absolute base all paths of a configuration become absolute, and absolute
paths stay as they are.
-/

namespace ExportTable

/-! ## Joined paths -/

namespace Path

variable {base path : Path}

theorem join_of_isAbsolute (h : path.isAbsolute) (base : Path) : base.join path = path := if_pos h

theorem toList_join (h : ¬ path.isAbsolute) (base : Path) :
    (base.join path).toList = base.asBase ++ path.toList := by
  rw [join, if_neg h, String.toList_ofList]

theorem asBase_empty : asBase "" = [] := rfl

theorem asBase_of_getLast? (h : path.toList.getLast? = some '/') : path.asBase = path.toList :=
  if_pos (.inr h)

theorem asBase_of_ne (hne : path ≠ "") (h : path.toList.getLast? ≠ some '/') :
    path.asBase = path.toList ++ ['/'] :=
  if_neg (not_or.mpr ⟨hne, h⟩)

/-- What is put below a base comes after a slash. -/
theorem getLast?_asBase (hne : base ≠ "") : base.asBase.getLast? = some '/' := by
  by_cases h : base.toList.getLast? = some '/'
  · rw [asBase_of_getLast? h, h]
  · rw [asBase_of_ne hne h, List.getLast?_append, List.getLast?_singleton, Option.some_or]

theorem asBase_ne_nil (hne : base ≠ "") : base.asBase ≠ [] := by
  intro hnil
  have hlast := getLast?_asBase hne
  rw [hnil] at hlast
  cases hlast

theorem head?_asBase (hne : base ≠ "") : base.asBase.head? = base.toList.head? := by
  by_cases h : base.toList.getLast? = some '/'
  · rw [asBase_of_getLast? h]
  · rw [asBase_of_ne hne h, List.head?_append_of_ne_nil _ (mt String.toList_eq_nil_iff.mp hne)]

theorem join_empty (path : Path) : join "" path = path := by
  by_cases h : path.isAbsolute
  · exact join_of_isAbsolute h _
  · rw [← String.toList_inj, toList_join h, asBase_empty, List.nil_append]

theorem isAbsolute_join (base path : Path) :
    (base.join path).isAbsolute ↔ path.isAbsolute ∨ base.isAbsolute := by
  by_cases hpath : path.isAbsolute
  · simp [join_of_isAbsolute hpath, hpath]
  by_cases hbase : base = ""
  · rw [hbase, join_empty]
    simp [isAbsolute]
  · have hhead : (base.join path).toList.head? = base.toList.head? := by
      rw [toList_join hpath, List.head?_append_of_ne_nil _ (asBase_ne_nil hbase),
        head?_asBase hbase]
    rw [or_iff_right hpath, isAbsolute, isAbsolute, hhead]

theorem asBase_join (h : ¬ path.isAbsolute) (base : Path) :
    (base.join path).asBase = base.asBase ++ path.asBase := by
  by_cases hbase : base = ""
  · rw [hbase, join_empty, asBase_empty, List.nil_append]
  by_cases hpath : path = ""
  · subst hpath
    -- To put the empty path below a base gives the base a slash at its end, which it then keeps.
    have hlast : (base.join "").toList.getLast? = some '/' := by
      rw [toList_join h, String.toList_empty, List.append_nil, getLast?_asBase hbase]
    rw [asBase_of_getLast? hlast, toList_join h]
    rfl
  have hlast : (base.join path).toList.getLast? = path.toList.getLast? := by
    rw [toList_join h, List.getLast?_append_of_ne_nil _ (mt String.toList_eq_nil_iff.mp hpath)]
  by_cases hslash : path.toList.getLast? = some '/'
  · rw [asBase_of_getLast? (hlast.trans hslash), toList_join h, asBase_of_getLast? hslash]
  · have hjoined : base.join path ≠ "" := by
      rw [ne_eq, ← String.toList_eq_nil_iff, toList_join h, List.append_eq_nil_iff, not_and]
      exact fun hnil ↦ absurd hnil (asBase_ne_nil hbase)
    rw [asBase_of_ne hjoined (hlast ▸ hslash), toList_join h, asBase_of_ne hpath hslash,
      List.append_assoc]

theorem join_assoc (first second path : Path) :
    (first.join second).join path = first.join (second.join path) := by
  by_cases hpath : path.isAbsolute
  · rw [join_of_isAbsolute hpath, join_of_isAbsolute hpath, join_of_isAbsolute hpath]
  by_cases hsecond : second.isAbsolute
  · have hjoined : (second.join path).isAbsolute := (isAbsolute_join second path).mpr (.inr hsecond)
    rw [join_of_isAbsolute hsecond, join_of_isAbsolute hjoined]
  · have hjoined : ¬ (second.join path).isAbsolute := by
      rw [isAbsolute_join, not_or]
      exact ⟨hpath, hsecond⟩
    rw [← String.toList_inj]
    calc
      _ = (first.join second).asBase ++ path.toList := toList_join hpath _
      _ = first.asBase ++ (second.asBase ++ path.toList) := by
        rw [asBase_join hsecond, List.append_assoc]
      _ = first.asBase ++ (second.join path).toList := by rw [toList_join hpath]
      _ = _ := (toList_join hjoined _).symm

end Path

namespace Configuration

/-! ## The paths of a configuration -/

inductive PathField where
  | sourceRoot
  | providerSource
  | typeDefinitions
  | opcodes
  | elementTypes
  | versionFile
  | outDir
  deriving DecidableEq, Repr

namespace Paths

def get? (paths : Paths) : PathField → Option Path
  | .sourceRoot => some paths.sourceRoot
  | .providerSource => paths.providerSource
  | .typeDefinitions => paths.typeDefinitions
  | .opcodes => paths.opcodes
  | .elementTypes => paths.elementTypes
  | .versionFile => paths.versionFile
  | .outDir => some paths.outDir

/-- All there is to paths are the fields and the name of the header. -/
theorem ext {first second : Paths} (hfields : ∀ field, first.get? field = second.get? field)
    (hheader : first.headerName = second.headerName) : first = second := by
  cases first
  cases second
  simp only [mk.injEq]
  exact ⟨Option.some.inj (hfields .sourceRoot), hfields .providerSource, hfields .typeDefinitions,
    hfields .opcodes, hfields .elementTypes, hfields .versionFile,
    Option.some.inj (hfields .outDir), hheader⟩

theorem get?_resolve (paths : Paths) (base : Path) (field : PathField) :
    (paths.resolve base).get? field = (paths.get? field).map base.join := by
  cases field <;> rfl

theorem resolve_resolve (paths : Paths) (first second : Path) :
    (paths.resolve first).resolve second = paths.resolve (second.join first) := by
  refine ext (fun field ↦ ?_) rfl
  rw [get?_resolve, get?_resolve, get?_resolve, Option.map_map]
  congr 1
  funext path
  exact (Path.join_assoc second first path).symm

theorem resolve_of_isAbsolute {paths : Paths}
    (h : ∀ field path, paths.get? field = some path → path.isAbsolute) (base : Path) :
    paths.resolve base = paths := by
  refine ext (fun field ↦ ?_) rfl
  rw [get?_resolve]
  cases hpath : paths.get? field with
  | none => rfl
  | some path => rw [Option.map_some, Path.join_of_isAbsolute (h field path hpath)]

/-- To resolve below one base and then below another is to resolve below the joined base. Below an
absolute base all paths become absolute, so to resolve again changes nothing. Absolute paths, paths
that are not given and the name of the header never change. -/
theorem resolve_composes (paths : Paths) (first second : Path) :
    (paths.resolve first).resolve second = paths.resolve (second.join first) ∧
    (first.isAbsolute →
      (∀ field path, (paths.resolve first).get? field = some path → path.isAbsolute) ∧
        ∀ base, (paths.resolve first).resolve base = paths.resolve first) ∧
    (∀ field path, paths.get? field = some path → path.isAbsolute →
      (paths.resolve first).get? field = some path) ∧
    (∀ field, paths.get? field = none → (paths.resolve first).get? field = none) ∧
    (paths.resolve first).headerName = paths.headerName := by
  refine ⟨resolve_resolve paths first second, fun hfirst ↦ ?_, fun field path hpath habsolute ↦ ?_,
    fun field hfield ↦ ?_, rfl⟩
  · have habsolute : ∀ field path, (paths.resolve first).get? field = some path →
        path.isAbsolute := by
      intro field path hpath
      rw [get?_resolve, Option.map_eq_some_iff] at hpath
      obtain ⟨given, -, rfl⟩ := hpath
      exact (Path.isAbsolute_join first given).mpr (.inr hfirst)
    exact ⟨habsolute, resolve_of_isAbsolute habsolute⟩
  · rw [get?_resolve, hpath, Option.map_some, Path.join_of_isAbsolute habsolute]
  · rw [get?_resolve, hfield, Option.map_none]

/-- Paths of every kind: relative, empty, absolute, with slashes at ends, and not given. -/
def mixed : Paths where
  sourceRoot := "."
  providerSource := some ""
  typeDefinitions := some "/usr/include/types.h"
  opcodes := some "opcodes/"
  outDir := "out"

theorem resolve_composes_mixed :
    mixed.resolve "/srv/" =
      { mixed with
        sourceRoot := "/srv/."
        providerSource := some "/srv/"
        opcodes := some "/srv/opcodes/"
        outDir := "/srv/out" } ∧
    (mixed.resolve "/srv/").resolve "build" = mixed.resolve "/srv/" ∧
    (mixed.resolve "a").resolve "b/" = mixed.resolve "b/a" ∧
    (mixed.resolve "a").get? .typeDefinitions = some "/usr/include/types.h" ∧
    (mixed.resolve "a").get? .elementTypes = none := by
  obtain ⟨-, hsettled, -⟩ := resolve_composes mixed "/srv/" "build"
  obtain ⟨hsteps, -, habsolute, hunset, -⟩ := resolve_composes mixed "a" "b/"
  have hbase : Path.isAbsolute "/srv/" := by decide +kernel
  have hjoined : Path.join "b/" "a" = "b/a" := by decide +kernel
  refine ⟨by decide +kernel, (hsettled hbase).2 "build", hjoined ▸ hsteps, ?_,
    hunset .elementTypes rfl⟩
  exact habsolute .typeDefinitions "/usr/include/types.h" rfl (by decide +kernel)

end Paths

end Configuration

end ExportTable
