import ExportTable.Capsule.Table
import ExportTable.Proofs.Bindings
import ExportTable.Proofs.Result

/-!
# Filling a table

After any writes a slot holds the address of the last write to it, or else what it held before. So
writes to distinct slots may come in any order, whether an initializer makes them or `set` does,
and a table of which every slot is written once holds exactly the addresses written.
-/

namespace ExportTable.Capsule.UnfinishedTable

theorem eq_of_getElem? {first second : UnfinishedTable}
    (h : ∀ index : Nat, first.slots[index]? = second.slots[index]?) : first = second := by
  cases first
  cases second
  congr 1
  exact List.ext_getElem? h

theorem getElem?_write (table : UnfinishedTable) (index other : Nat) (address : Address) :
    (table.write index address).slots[other]? =
      table.slots[other]?.map fun old ↦ if other = index then address else old := by
  by_cases h : index = other
  · subst h
    cases h : table.slots[index]? <;> simp [write, List.getElem?_set_self', h]
  · simp [write, List.getElem?_set_ne h, Ne.symm h]

/-- The last write to a slot counts. -/
theorem getElem?_writeAll (table : UnfinishedTable) (writes : List (Nat × Address)) (index : Nat) :
    (table.writeAll writes).slots[index]? =
      table.slots[index]?.map fun old ↦ (writes.reverse.lookup index).getD old := by
  induction writes generalizing table with
  | nil => simp [writeAll]
  | cons first rest ih =>
    obtain ⟨slot, address⟩ := first
    have hrest := ih (table.write slot address)
    rw [writeAll, List.foldl_cons, ← writeAll, hrest, getElem?_write, Option.map_map,
      List.reverse_cons, List.lookup_append]
    congr 1
    funext old
    cases rest.reverse.lookup index with
    | some later => rfl
    | none =>
      by_cases hslot : index = slot
      · simp [hslot]
      · simp [hslot, List.lookup_cons, beq_eq_false_iff_ne.mpr hslot]

theorem writeAll_of_perm {first second : List (Nat × Address)} (hperm : first.Perm second)
    (hindices : (first.map Prod.fst).Nodup) (table : UnfinishedTable) :
    table.writeAll first = table.writeAll second := by
  have hreverse : first.reverse.Perm second.reverse :=
    (List.reverse_perm first).trans (hperm.trans (List.reverse_perm second).symm)
  have hindicesReverse : (first.reverse.map Prod.fst).Nodup := by
    rwa [List.map_reverse, List.nodup_reverse]
  apply eq_of_getElem?
  intro index
  rw [getElem?_writeAll, getElem?_writeAll, lookup_eq_of_perm hreverse hindicesReverse]

/-- Every slot written once, in any order. -/
theorem writeAll_ofSize {addresses : List Address} {writes : List (Nat × Address)}
    (hperm : writes.Perm ((List.range addresses.length).zip addresses)) :
    (ofSize addresses.length).writeAll writes = ⟨addresses⟩ := by
  have hkeys : (((List.range addresses.length).zip addresses).map Prod.fst).Nodup := by
    rw [List.map_fst_zip (by simp)]
    exact List.nodup_range
  rw [writeAll_of_perm hperm ((hperm.map Prod.fst).nodup_iff.mpr hkeys)]
  apply eq_of_getElem?
  intro index
  rw [getElem?_writeAll]
  by_cases hindex : index < addresses.length
  · have hmem : (index, addresses[index]) ∈
        ((List.range addresses.length).zip addresses).reverse := by
      rw [List.mem_reverse, List.mem_iff_getElem?]
      exact ⟨index, by simp [hindex]⟩
    have hlookup := (lookup_eq_some_iff_mem (by rwa [List.map_reverse, List.nodup_reverse])).mpr
      hmem
    simp [hlookup, ofSize, hindex]
  · simp [ofSize, hindex]

/-- Calls of `set`, one after the other, up to the first that fails. -/
def setAll (table : UnfinishedTable) (writes : List (Nat × Address)) :
    Except Error UnfinishedTable :=
  writes.foldlM (fun table (index, address) ↦ table.set index address) table

theorem setAll_eq_ok {table : UnfinishedTable} {writes : List (Nat × Address)}
    (h : ∀ write ∈ writes, write.1 < table.size ∧ write.2 ≠ 0) :
    table.setAll writes = .ok (table.writeAll writes) := by
  induction writes generalizing table with
  | nil => rfl
  | cons first rest ih =>
    obtain ⟨slot, address⟩ := first
    obtain ⟨⟨hindex, haddress⟩, hrest⟩ := List.forall_mem_cons.mp h
    have hset : table.set slot address = .ok (table.write slot address) := by
      rw [set, if_neg haddress, if_pos hindex]
    have hrestSize : ∀ write ∈ rest,
        write.1 < (table.write slot address).size ∧ write.2 ≠ 0 := by
      simpa only [size_write] using hrest
    rw [setAll, List.foldlM_cons]
    dsimp only
    rw [hset, ok_bind]
    exact ih hrestSize

theorem finish_eq_ok {table : UnfinishedTable} (h : ∀ address ∈ table.slots, address ≠ 0) :
    table.finish = .ok ⟨table.slots⟩ := by
  have hfind : table.slots.findIdx? (· = 0) = none := by
    rw [List.findIdx?_eq_none_iff]
    intro address hmem
    simpa using h address hmem
  rw [finish, hfind]

end ExportTable.Capsule.UnfinishedTable
