import ExportTable.Proofs.Capsule.Pointers

/-!
# Finished tables hold the last writes

A table is filled by calls of `set` and by initializers, in any order and any number. If no call of
`set` fails, a slot holds in the end the address of the last write to it, whoever made it, or null
if there was none. So the table can be finished exactly if every slot was last written with an
address that is not null, and otherwise the first slot for which this is not so is named.
-/

namespace ExportTable.Capsule

/-- A call that writes to a table. -/
inductive Filling where
  | set (index : Nat) (address : Address)
  /-- The writes of an initializer. -/
  | writeAll (writes : List (Nat × Address))
  deriving DecidableEq, Repr

namespace Filling

def writes : Filling → List (Nat × Address)
  | set index address => [(index, address)]
  | writeAll writes => writes

/-- What the calls write, one after the other. -/
def allWrites (fillings : List Filling) : List (Nat × Address) := fillings.flatMap writes

/-- `set` looks at what it writes, an initializer does not. -/
def Fits (size : Nat) : Filling → Prop
  | set index address => index < size ∧ address ≠ 0
  | writeAll _ => True

end Filling

/-! ## Last writes -/

/-- The slot is written, the last time with this address. -/
def IsLastWrite (writes : List (Nat × Address)) (index : Nat) (address : Address) : Prop :=
  ∃ earlier later, writes = earlier ++ (index, address) :: later ∧ ∀ write ∈ later, write.1 ≠ index

/-- The slot is never written, or the last time with null. -/
def LeavesNull (writes : List (Nat × Address)) (index : Nat) : Prop :=
  (∀ write ∈ writes, write.1 ≠ index) ∨ IsLastWrite writes index 0

variable {writes : List (Nat × Address)} {size index : Nat} {address : Address}

theorem lookup_reverse_eq_some_iff :
    writes.reverse.lookup index = some address ↔ IsLastWrite writes index address := by
  rw [List.lookup_eq_some_iff]
  constructor
  · rintro ⟨later, earlier, hwrites, hlater⟩
    refine ⟨earlier.reverse, later.reverse, ?_, fun write hmem heq ↦ ?_⟩
    · simpa using List.reverse_eq_iff.mp hwrites
    · exact absurd heq.symm (by simpa using hlater write (List.mem_reverse.mp hmem))
  · rintro ⟨earlier, later, rfl, hlater⟩
    refine ⟨later.reverse, earlier.reverse, by simp, fun write hmem ↦ ?_⟩
    simpa using (hlater write (List.mem_reverse.mp hmem)).symm

theorem lookup_reverse_eq_none_iff :
    writes.reverse.lookup index = none ↔ ∀ write ∈ writes, write.1 ≠ index := by
  rw [List.lookup_eq_none_iff]
  simp [eq_comm (a := index)]

instance : Decidable (IsLastWrite writes index address) :=
  decidable_of_iff _ lookup_reverse_eq_some_iff

instance : Decidable (LeavesNull writes index) := inferInstanceAs (Decidable (_ ∨ _))

namespace UnfinishedTable

/-! ## Fillings -/

def apply (table : UnfinishedTable) : Filling → Except Error UnfinishedTable
  | .set index address => table.set index address
  | .writeAll writes => .ok (table.writeAll writes)

/-- The calls one after the other, up to the first that fails. -/
def applyAll (table : UnfinishedTable) (fillings : List Filling) : Except Error UnfinishedTable :=
  fillings.foldlM apply table

theorem apply_eq_ok_iff {table filled : UnfinishedTable} {filling : Filling} :
    table.apply filling = .ok filled ↔
      filling.Fits table.size ∧ filled = table.writeAll filling.writes := by
  cases filling with
  | set index address =>
    constructor
    · intro h
      obtain ⟨hindex, haddress, hfilled⟩ := eq_write_of_set h
      exact ⟨⟨hindex, haddress⟩, hfilled⟩
    · rintro ⟨⟨hindex, haddress⟩, rfl⟩
      rw [apply, set, if_neg haddress, if_pos hindex]
      rfl
  | writeAll writes =>
    rw [apply, Except.ok.injEq]
    exact ⟨fun h ↦ ⟨trivial, h.symm⟩, fun h ↦ h.2.symm⟩

theorem writeAll_append (table : UnfinishedTable) (first second : List (Nat × Address)) :
    table.writeAll (first ++ second) = (table.writeAll first).writeAll second :=
  List.foldl_append

/-- If no call fails, the table is as if an initializer had made all writes. -/
theorem applyAll_eq_ok_iff {table filled : UnfinishedTable} {fillings : List Filling} :
    table.applyAll fillings = .ok filled ↔
      (∀ filling ∈ fillings, filling.Fits table.size) ∧
        filled = table.writeAll (Filling.allWrites fillings) := by
  induction fillings generalizing table with
  | nil =>
    rw [applyAll, List.foldlM_nil]
    exact ⟨fun h ↦ ⟨by simp, (Except.ok.inj h).symm⟩, fun h ↦ congrArg Except.ok h.2.symm⟩
  | cons first rest ih =>
    rw [applyAll, List.foldlM_cons, bind_eq_ok_iff, Filling.allWrites, List.flatMap_cons,
      writeAll_append]
    constructor
    · rintro ⟨middle, hfirst, hrest⟩
      obtain ⟨hfits, rfl⟩ := apply_eq_ok_iff.mp hfirst
      obtain ⟨hall, rfl⟩ := ih.mp hrest
      rw [size_writeAll] at hall
      exact ⟨List.forall_mem_cons.mpr ⟨hfits, hall⟩, rfl⟩
    · rintro ⟨hall, rfl⟩
      obtain ⟨hfits, hrest⟩ := List.forall_mem_cons.mp hall
      refine ⟨_, apply_eq_ok_iff.mpr ⟨hfits, rfl⟩, ih.mpr ⟨?_, rfl⟩⟩
      rwa [size_writeAll]

/-- Writes to different slots commute. -/
theorem writeAll_comm {first second : List (Nat × Address)}
    (h : ∀ write ∈ first, ∀ other ∈ second, write.1 ≠ other.1) (table : UnfinishedTable) :
    (table.writeAll first).writeAll second = (table.writeAll second).writeAll first := by
  apply eq_of_getElem?
  intro index
  simp only [getElem?_writeAll, Option.map_map]
  congr 1
  funext old
  -- At most one of the two lists writes to this slot.
  by_cases hfirst : ∀ write ∈ first, write.1 ≠ index
  · simp [lookup_reverse_eq_none_iff.mpr hfirst]
  · have hsecond : ∀ other ∈ second, other.1 ≠ index := by
      rintro other hother rfl
      exact hfirst fun write hwrite ↦ h write hwrite other hother
    simp [lookup_reverse_eq_none_iff.mpr hsecond]

/-! ## Slots -/

theorem getElem?_writeAll_ofSize (size : Nat) (writes : List (Nat × Address)) (index : Nat) :
    ((ofSize size).writeAll writes).slots[index]? =
      if index < size then some ((writes.reverse.lookup index).getD 0) else none := by
  rw [getElem?_writeAll, ofSize, List.getElem?_replicate]
  split <;> rfl

theorem getElem?_eq_some_iff_isLastWrite (haddress : address ≠ 0) :
    ((ofSize size).writeAll writes).slots[index]? = some address ↔
      index < size ∧ IsLastWrite writes index address := by
  rw [getElem?_writeAll_ofSize, ← lookup_reverse_eq_some_iff]
  cases writes.reverse.lookup index <;> simp [haddress.symm]

theorem getElem?_eq_some_zero_iff :
    ((ofSize size).writeAll writes).slots[index]? = some 0 ↔
      index < size ∧ LeavesNull writes index := by
  rw [getElem?_writeAll_ofSize, LeavesNull, ← lookup_reverse_eq_none_iff,
    ← lookup_reverse_eq_some_iff]
  cases writes.reverse.lookup index <;> simp

/-! ## Failures -/

theorem set_eq_error_iff {table : UnfinishedTable} {e : Error} :
    table.set index address = .error e ↔
      address = 0 ∧ e = .nullAddress index ∨
        address ≠ 0 ∧ table.size ≤ index ∧ e = .indexOutOfRange index table.size := by
  unfold set
  by_cases haddress : address = 0
  · simp [haddress, eq_comm]
  by_cases hindex : index < table.size
  · simp [haddress, hindex, Nat.not_le.mpr hindex]
  · simp [haddress, hindex, Nat.le_of_not_lt hindex, eq_comm]

theorem findIdx?_slots_eq_some_iff {table : UnfinishedTable} :
    table.slots.findIdx? (· = 0) = some index ↔
      table.slots[index]? = some 0 ∧ ∀ earlier < index, table.slots[earlier]? ≠ some 0 := by
  rw [List.findIdx?_eq_some_iff_getElem]
  constructor
  · rintro ⟨hindex, hnull, hearlier⟩
    refine ⟨?_, fun earlier hlt ↦ ?_⟩
    · rw [List.getElem?_eq_getElem hindex, decide_eq_true_iff.mp hnull]
    · rw [List.getElem?_eq_getElem (Nat.lt_trans hlt hindex)]
      simpa using hearlier earlier hlt
  · rintro ⟨hnull, hearlier⟩
    obtain ⟨hindex, hzero⟩ := List.getElem?_eq_some_iff.mp hnull
    refine ⟨hindex, decide_eq_true hzero, fun earlier hlt ↦ ?_⟩
    have hslot := hearlier earlier hlt
    rw [List.getElem?_eq_getElem (Nat.lt_trans hlt hindex)] at hslot
    simpa using hslot

/-- The first slot that is null is named. -/
theorem finish_eq_error_iff {table : UnfinishedTable} {e : Error} :
    table.finish = .error e ↔
      ∃ index, e = .incomplete index ∧ table.slots[index]? = some 0 ∧
        ∀ earlier < index, table.slots[earlier]? ≠ some 0 := by
  simp only [← findIdx?_slots_eq_some_iff, finish]
  cases table.slots.findIdx? (· = 0) with
  | none => simp
  | some index => simp [eq_comm]

/-! ## Tables -/

theorem size_writeAll_ofSize (size : Nat) (writes : List (Nat × Address)) :
    ((ofSize size).writeAll writes).size = size := by
  rw [size_writeAll, UnfinishedTable.size, ofSize, List.length_replicate]

theorem finish_writeAll_eq_ok {table : Table}
    (h : ((ofSize size).writeAll writes).finish = .ok table) :
    table.size = size ∧ (∀ index < size, ∃ address ≠ 0, table.get? index = some address ∧
      IsLastWrite writes index address) ∧ ∀ index, size ≤ index → table.get? index = none := by
  obtain ⟨rfl, hcomplete⟩ := finish_eq_ok_iff.mp h
  have hsize : ((ofSize size).writeAll writes).slots.length = size :=
    size_writeAll_ofSize size writes
  refine ⟨hsize, fun index hindex ↦ ?_, fun index hindex ↦ ?_⟩
  · have hslot := List.getElem?_eq_getElem (hsize.symm ▸ hindex)
    have hne := hcomplete _ (List.mem_of_getElem? hslot)
    exact ⟨_, hne, hslot, ((getElem?_eq_some_iff_isLastWrite hne).mp hslot).2⟩
  · exact List.getElem?_eq_none (hsize.symm ▸ hindex)

theorem exists_finish_writeAll_iff :
    (∃ table, ((ofSize size).writeAll writes).finish = .ok table) ↔
      ∀ index < size, ∃ address ≠ 0, IsLastWrite writes index address := by
  constructor
  · rintro ⟨table, htable⟩ index hindex
    obtain ⟨address, hne, -, hlast⟩ := (finish_writeAll_eq_ok htable).2.1 index hindex
    exact ⟨address, hne, hlast⟩
  · intro hlast
    refine ⟨_, finish_eq_ok fun address hmem ↦ ?_⟩
    rintro rfl
    obtain ⟨index, hslot⟩ := List.mem_iff_getElem?.mp hmem
    obtain ⟨hindex, -⟩ := getElem?_eq_some_zero_iff.mp hslot
    obtain ⟨address, hne, haddress⟩ := hlast index hindex
    have hsame := (getElem?_eq_some_iff_isLastWrite hne).mpr ⟨hindex, haddress⟩
    exact hne (Option.some.inj (hsame.symm.trans hslot))

theorem finish_writeAll_eq_error_iff {e : Error} :
    ((ofSize size).writeAll writes).finish = .error e ↔
      ∃ index < size, e = .incomplete index ∧ LeavesNull writes index ∧
        ∀ earlier < index, ¬ LeavesNull writes earlier := by
  simp only [finish_eq_error_iff, getElem?_eq_some_zero_iff, ne_eq, not_and]
  constructor
  · rintro ⟨index, he, ⟨hindex, hnull⟩, hearlier⟩
    exact ⟨index, hindex, he, hnull, fun earlier hlt ↦
      hearlier earlier hlt (Nat.lt_trans hlt hindex)⟩
  · rintro ⟨index, hindex, he, hnull, hearlier⟩
    exact ⟨index, he, ⟨hindex, hnull⟩, fun earlier hlt _ ↦ hearlier earlier hlt⟩

/-- Neighbours that write to different slots may change places. -/
theorem applyAll_swap {table filled : UnfinishedTable} {earlier later : List Filling}
    {first second : Filling}
    (h : table.applyAll (earlier ++ first :: second :: later) = .ok filled)
    (hslots : ∀ write ∈ first.writes, ∀ other ∈ second.writes, write.1 ≠ other.1) :
    table.applyAll (earlier ++ second :: first :: later) = .ok filled := by
  obtain ⟨hfits, rfl⟩ := applyAll_eq_ok_iff.mp h
  have hperm : (earlier ++ second :: first :: later).Perm (earlier ++ first :: second :: later) :=
    (List.Perm.swap first second later).append_left earlier
  refine applyAll_eq_ok_iff.mpr ⟨fun filling hmem ↦ hfits filling (hperm.subset hmem), ?_⟩
  simp only [Filling.allWrites, List.flatMap_append, List.flatMap_cons, writeAll_append]
  rw [writeAll_comm hslots]

/-- A table of `size` slots that is filled without a failure can be finished exactly if the last
write to every slot is not null, and then it holds these last writes. Otherwise the first slot that
is left null is named. Writes to different slots may change places, whoever makes them. A call of
`set` fails exactly for a null address, whatever the index, and for an index past the end. -/
theorem finish_last_writes {size : Nat} {fillings : List Filling} {filled : UnfinishedTable}
    (h : (ofSize size).applyAll fillings = .ok filled) :
    ((∃ table, filled.finish = .ok table) ↔
      ∀ index < size, ∃ address ≠ 0, IsLastWrite (Filling.allWrites fillings) index address) ∧
    (∀ table, filled.finish = .ok table →
      table.size = size ∧
      (∀ index < size, ∃ address, table.get? index = some address ∧
        IsLastWrite (Filling.allWrites fillings) index address) ∧
      ∀ index, size ≤ index → table.get? index = none) ∧
    (∀ e, filled.finish = .error e ↔
      ∃ index < size, e = .incomplete index ∧ LeavesNull (Filling.allWrites fillings) index ∧
        ∀ earlier < index, ¬ LeavesNull (Filling.allWrites fillings) earlier) ∧
    (∀ earlier first second later, fillings = earlier ++ first :: second :: later →
      (∀ write ∈ first.writes, ∀ other ∈ second.writes, write.1 ≠ other.1) →
        (ofSize size).applyAll (earlier ++ second :: first :: later) = .ok filled) ∧
    (∀ index other address otherAddress, index ≠ other →
      (filled.write index address).write other otherAddress =
        (filled.write other otherAddress).write index address) ∧
    ∀ index address e, filled.set index address = .error e ↔
      address = 0 ∧ e = .nullAddress index ∨
        address ≠ 0 ∧ size ≤ index ∧ e = .indexOutOfRange index size := by
  obtain ⟨-, rfl⟩ := applyAll_eq_ok_iff.mp h
  refine ⟨exists_finish_writeAll_iff, fun table htable ↦ ?_, fun e ↦ finish_writeAll_eq_error_iff,
    ?_, ?_, fun index address e ↦ ?_⟩
  · obtain ⟨hsize, hslots, hend⟩ := finish_writeAll_eq_ok htable
    refine ⟨hsize, fun index hindex ↦ ?_, hend⟩
    obtain ⟨address, -, hslot, hlast⟩ := hslots index hindex
    exact ⟨address, hslot, hlast⟩
  · rintro earlier first second later rfl hslots
    exact applyAll_swap h hslots
  · intro index other address otherAddress hne
    have hslots : ∀ write ∈ [(index, address)], ∀ write' ∈ [(other, otherAddress)],
        write.1 ≠ write'.1 := by
      simpa using hne
    exact writeAll_comm hslots _
  · rw [set_eq_error_iff, size_writeAll_ofSize]

/-- The initializer writes null over a slot that was set. -/
def overwrittenFillings : List Filling :=
  [.set 1 16, .set 0 32, .writeAll [(0, 48), (1, 0), (2, 64)]]

theorem finish_last_writes_overwrittenFillings :
    (ofSize 3).applyAll overwrittenFillings = .ok ⟨[48, 0, 64]⟩ ∧
      (⟨[48, 0, 64]⟩ : UnfinishedTable).finish = .error (.incomplete 1) := by
  have hfilled : (ofSize 3).applyAll overwrittenFillings = .ok ⟨[48, 0, 64]⟩ := by rfl
  obtain ⟨_, _, hreports, _⟩ := finish_last_writes hfilled
  exact ⟨hfilled, (hreports _).mpr ⟨1, by decide, rfl, by decide, by decide⟩⟩

end UnfinishedTable

end ExportTable.Capsule
