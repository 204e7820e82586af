import ExportTable.Capsule.Foreign
import ExportTable.Proofs.Capsule.Filling

/-!
# What pointers from C denote

The key and the table that C pointers denote can be told without a registry. A call of `publish`
from C that succeeds publishes just this table under this key, and none of its addresses is null.
-/

namespace ExportTable.Capsule

/-- No slot is null. -/
def Table.Complete (table : Table) : Prop := ∀ address ∈ table.slots, address ≠ 0

namespace UnfinishedTable

theorem eq_write_of_set {table filled : UnfinishedTable} {index : Nat} {address : Address}
    (h : table.set index address = .ok filled) :
    index < table.size ∧ address ≠ 0 ∧ filled = table.write index address := by
  unfold set at h
  split at h
  · cases h
  next haddress =>
    split at h
    next hindex =>
      cases h
      exact ⟨hindex, haddress, rfl⟩
    · cases h

theorem setAll_eq_ok_iff {table filled : UnfinishedTable} {writes : List (Nat × Address)} :
    table.setAll writes = .ok filled ↔
      (∀ write ∈ writes, write.1 < table.size ∧ write.2 ≠ 0) ∧
        filled = table.writeAll writes := by
  constructor
  · intro h
    induction writes generalizing table with
    | nil =>
      cases h
      exact ⟨by simp, rfl⟩
    | cons first rest ih =>
      rw [setAll, List.foldlM_cons, bind_eq_ok_iff] at h
      obtain ⟨middle, hset, hrest⟩ := h
      obtain ⟨hindex, haddress, rfl⟩ := eq_write_of_set hset
      obtain ⟨hwrites, rfl⟩ := ih hrest
      simp only [size_write] at hwrites
      exact ⟨List.forall_mem_cons.mpr ⟨⟨hindex, haddress⟩, hwrites⟩, rfl⟩
  · rintro ⟨hwrites, rfl⟩
    exact setAll_eq_ok hwrites

theorem finish_eq_ok_iff {table : UnfinishedTable} {finished : Table} :
    table.finish = .ok finished ↔ finished = ⟨table.slots⟩ ∧ finished.Complete := by
  constructor
  · intro h
    unfold finish at h
    split at h
    next => cases h
    next hnone =>
      cases h
      refine ⟨rfl, fun address hmem ↦ ?_⟩
      simpa using List.findIdx?_eq_none_iff.mp hnone address hmem
  · rintro ⟨rfl, hcomplete⟩
    exact finish_eq_ok hcomplete

end UnfinishedTable

namespace Foreign

/-- The addresses with their slots, in the order in which they are set. -/
def writes (slots : List Address) : List (Nat × Address) := (List.range slots.length).zip slots

theorem fst_lt_of_mem_writes {slots : List Address} {write : Nat × Address}
    (h : write ∈ writes slots) : write.1 < slots.length :=
  List.mem_range.mp (List.of_mem_zip h).1

theorem fill_eq_setAll (size : Nat) (slots : List Address) :
    fill size slots = (UnfinishedTable.ofSize size).setAll (writes slots) := by
  have hwrites : writes slots = slots.zipIdx.map Prod.swap := by
    apply List.ext_getElem?
    intro index
    by_cases hindex : index < slots.length <;> simp [writes, List.zip, hindex]
  rw [fill, UnfinishedTable.setAll, hwrites, List.foldlM_map]
  rfl

/-- Only a table that is given in full can be finished, and it has the given addresses. -/
theorem eq_of_fill {size : Nat} {slots : List Address} {filled : UnfinishedTable} {table : Table}
    (hfill : fill size slots = .ok filled) (hfinish : filled.finish = .ok table) :
    slots.length = size ∧ table = ⟨slots⟩ ∧ table.Complete := by
  rw [fill_eq_setAll, UnfinishedTable.setAll_eq_ok_iff] at hfill
  obtain ⟨hwrites, rfl⟩ := hfill
  obtain ⟨rfl, hcomplete⟩ := UnfinishedTable.finish_eq_ok_iff.mp hfinish
  have hlong : slots.length ≤ size := by
    by_contra hlong
    have hlt : size < slots.length := Nat.lt_of_not_le hlong
    have hmem : (size, slots[size]) ∈ writes slots := by
      rw [writes, List.mem_iff_getElem?]
      exact ⟨size, by simp [hlt]⟩
    have hbound := (hwrites _ hmem).1
    simp [UnfinishedTable.size, UnfinishedTable.ofSize] at hbound
  have hshort : size ≤ slots.length := by
    by_contra hshort
    have hlt : slots.length < size := Nat.lt_of_not_le hshort
    have hnone : (writes slots).reverse.lookup slots.length = none := by
      rw [List.lookup_eq_none_iff]
      intro write hwrite
      have hindex := fst_lt_of_mem_writes (List.mem_reverse.mp hwrite)
      simp [Nat.ne_of_gt hindex]
    -- The first slot without an address is still null.
    have hslot : ((UnfinishedTable.ofSize size).writeAll (writes slots)).slots[slots.length]? =
        some 0 := by
      rw [UnfinishedTable.getElem?_writeAll, hnone]
      simp [UnfinishedTable.ofSize, hlt]
    exact hcomplete 0 (List.mem_of_getElem? hslot) rfl
  obtain rfl := Nat.le_antisymm hlong hshort
  rw [UnfinishedTable.writeAll_ofSize (.refl (writes slots))] at hcomplete ⊢
  exact ⟨rfl, rfl, hcomplete⟩

/-- The key and the table that pointers denote, if they denote any. -/
def denoted? (key : KeyPointer) (slots : TablePointer) (size : Nat) : Option (String × Table) :=
  match readKey key, readSlots slots size with
  | .ok key, .ok slots => some (key, ⟨slots⟩)
  | _, _ => none

theorem denoted?_of_publish {registry published : Registry} {key : KeyPointer}
    {slots : TablePointer} {size : Nat}
    (h : Foreign.publish registry key slots size = .ok published) :
    ∃ name table, denoted? key slots size = some (name, table) ∧ table.Complete ∧
      registry.publish name table = .ok published := by
  obtain ⟨name, hkey, h⟩ := bind_eq_ok_iff.mp h
  obtain ⟨addresses, hslots, h⟩ := bind_eq_ok_iff.mp h
  obtain ⟨unfinished, hfill, h⟩ := bind_eq_ok_iff.mp h
  obtain ⟨table, hfinish, h⟩ := bind_eq_ok_iff.mp h
  obtain ⟨_, rfl, hcomplete⟩ := eq_of_fill hfill hfinish
  refine ⟨name, ⟨addresses⟩, ?_, hcomplete, h⟩
  rw [denoted?, hkey, hslots]

end Foreign

end ExportTable.Capsule
