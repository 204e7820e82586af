import ExportTable.NameMap
import Mathlib.Data.List.Nodup

/-!
# Maps made from lists

A map that is made from bindings with distinct names holds exactly these bindings, in the order of
their names. So a map is made again from its own bindings.
-/

namespace ExportTable.NameMap

variable {α : Type}

theorem perm_insertInto {name : String} {a : α} {l : List (String × α)}
    (hnew : name ∉ l.map Prod.fst) : (insertInto name a l).Perm ((name, a) :: l) := by
  induction l with
  | nil => exact .refl _
  | cons first rest ih =>
    obtain ⟨key, b⟩ := first
    obtain ⟨hkey, hrest⟩ := not_or.mp (mt List.mem_cons.mpr hnew)
    rw [insertInto]
    split
    · exact .refl _
    · split
      · calc
          ((key, b) :: insertInto name a rest).Perm ((key, b) :: (name, a) :: rest) :=
            (ih hrest).cons _
          List.Perm _ ((name, a) :: (key, b) :: rest) := .swap ..
      next hle hge =>
        exact absurd (String.le_antisymm (String.not_lt.mp hge) (String.not_lt.mp hle)) hkey

theorem perm_foldl_insert (m : NameMap α) {l : List (String × α)}
    (hnames : ((m.bindings ++ l).map Prod.fst).Nodup) :
    (l.foldl (fun m (name, a) ↦ m.insert name a) m).bindings.Perm (m.bindings ++ l) := by
  induction l generalizing m with
  | nil => rw [List.foldl_nil, List.append_nil]
  | cons first rest ih =>
    obtain ⟨name, a⟩ := first
    have hmiddle : (m.bindings ++ (name, a) :: rest).Perm ((name, a) :: (m.bindings ++ rest)) :=
      List.perm_middle
    have hnew : name ∉ m.bindings.map Prod.fst := by
      have hcons := (hmiddle.map Prod.fst).nodup_iff.mp hnames
      rw [List.map_cons, List.nodup_cons, List.map_append] at hcons
      exact fun hmem ↦ hcons.1 (List.mem_append_left _ hmem)
    have hinsert : ((m.insert name a).bindings ++ rest).Perm (m.bindings ++ (name, a) :: rest) :=
      ((perm_insertInto hnew).append_right rest).trans hmiddle.symm
    exact (ih (m.insert name a) ((hinsert.map Prod.fst).nodup_iff.mpr hnames)).trans hinsert

theorem perm_ofList {l : List (String × α)} (hnames : (l.map Prod.fst).Nodup) :
    (ofList l).bindings.Perm l :=
  perm_foldl_insert ∅ hnames

theorem nodup_names (m : NameMap α) : (m.bindings.map Prod.fst).Nodup := by
  rw [List.Nodup, List.pairwise_map]
  refine m.keysAscend.imp fun {first second} hlt heq ↦ ?_
  exact String.lt_irrefl second.1 (heq ▸ hlt)

/-- A map holds its bindings in the order of their names, whatever the order they are given in. -/
theorem eq_of_perm {m n : NameMap α} (h : m.bindings.Perm n.bindings) : m = n := by
  apply ext
  refine h.eq_of_pairwise ?_ m.keysAscend n.keysAscend
  intro first second _ _ hlt hgt
  exact absurd (String.lt_trans hlt hgt) (String.lt_irrefl _)

theorem ofList_bindings (m : NameMap α) : ofList m.bindings = m :=
  eq_of_perm (perm_ofList m.nodup_names)

end ExportTable.NameMap
