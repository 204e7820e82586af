import Mathlib.Data.List.Nodup

/-!
# Lists of bindings

In a list of pairs whose first parts are distinct, what a key is bound to does not depend on the
order of the pairs.
-/

namespace ExportTable

variable {α β : Type} [BEq α] [LawfulBEq α]

theorem exists_lookup_eq_some_iff {bindings : List (α × β)} {key : α} :
    (∃ value, bindings.lookup key = some value) ↔ key ∈ bindings.map Prod.fst := by
  rw [← Option.isSome_iff_exists, List.lookup_isSome_iff, List.mem_map]
  constructor
  · rintro ⟨binding, hmem, hkey⟩
    exact ⟨binding, hmem, (eq_of_beq hkey).symm⟩
  · rintro ⟨binding, hmem, rfl⟩
    exact ⟨binding, hmem, beq_self_eq_true _⟩

theorem lookup_eq_some_iff_mem {bindings : List (α × β)} (hkeys : (bindings.map Prod.fst).Nodup)
    {key : α} {value : β} : bindings.lookup key = some value ↔ (key, value) ∈ bindings := by
  induction bindings with
  | nil => simp
  | cons first rest ih =>
    obtain ⟨firstKey, firstValue⟩ := first
    obtain ⟨hfirst, hrest⟩ := List.nodup_cons.mp hkeys
    rw [List.lookup_cons]
    by_cases hkey : key = firstKey
    · have hnot : (key, value) ∉ rest := fun hmem ↦
        hfirst (List.mem_map.mpr ⟨(key, value), hmem, hkey⟩)
      subst hkey
      simp [hnot, eq_comm]
    · simp [beq_eq_false_iff_ne.mpr hkey, ih hrest, hkey]

theorem lookup_eq_of_perm {first second : List (α × β)} (hperm : first.Perm second)
    (hkeys : (first.map Prod.fst).Nodup) (key : α) : first.lookup key = second.lookup key := by
  have hkeysSecond : (second.map Prod.fst).Nodup := (hperm.map Prod.fst).nodup_iff.mp hkeys
  apply Option.ext
  intro value
  rw [lookup_eq_some_iff_mem hkeys, lookup_eq_some_iff_mem hkeysSecond, hperm.mem_iff]

end ExportTable
