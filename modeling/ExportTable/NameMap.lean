/-!
# Maps from names

A map from texts holds its bindings in the order of the names, by code points, so it has one list of
bindings whatever the order in which they were made.
-/

namespace ExportTable

def KeysAscend (bindings : List (String × α)) : Prop := bindings.Pairwise (·.1 < ·.1)

structure NameMap (α : Type) where
  bindings : List (String × α)
  keysAscend : KeysAscend bindings

namespace NameMap

theorem ext {m n : NameMap α} (h : m.bindings = n.bindings) : m = n := by
  cases m; cases n; cases h; rfl

instance [Repr α] : Repr (NameMap α) := ⟨fun m _ ↦ repr m.bindings⟩

instance [DecidableEq α] : DecidableEq (NameMap α) := fun m n ↦
  decidable_of_iff (m.bindings = n.bindings) ⟨ext, fun h ↦ h ▸ rfl⟩

def empty : NameMap α := ⟨[], .nil⟩

instance : EmptyCollection (NameMap α) := ⟨empty⟩

def find? (m : NameMap α) (name : String) : Option α := m.bindings.lookup name

/-- Puts a binding in its place, over an older one of the same name. -/
def insertInto (name : String) (a : α) : List (String × α) → List (String × α)
  | [] => [(name, a)]
  | (key, b) :: rest =>
    if name < key then (name, a) :: (key, b) :: rest
    else if key < name then (key, b) :: insertInto name a rest
    else (name, a) :: rest

theorem fst_of_mem_insertInto {name : String} {a : α} {l : List (String × α)} {p : String × α}
    (h : p ∈ insertInto name a l) : p.1 = name ∨ ∃ q ∈ l, q.1 = p.1 := by
  induction l with
  | nil => simp_all [insertInto]
  | cons q rest ih =>
    rw [insertInto] at h
    split at h
    · rcases List.mem_cons.mp h with rfl | h
      · exact .inl rfl
      · exact .inr ⟨p, h, rfl⟩
    split at h
    · rcases List.mem_cons.mp h with rfl | h
      · exact .inr ⟨_, List.mem_cons_self, rfl⟩
      · rcases ih h with h | ⟨q, hq, he⟩
        · exact .inl h
        · exact .inr ⟨q, List.mem_cons_of_mem _ hq, he⟩
    · rcases List.mem_cons.mp h with rfl | h
      · exact .inl rfl
      · exact .inr ⟨p, List.mem_cons_of_mem _ h, rfl⟩

theorem keysAscend_insertInto (name : String) (a : α) {l : List (String × α)} (h : KeysAscend l) :
    KeysAscend (insertInto name a l) := by
  induction l with
  | nil => exact List.pairwise_singleton _ _
  | cons q rest ih =>
    have ⟨hq, hrest⟩ := List.pairwise_cons.mp h
    rw [insertInto]
    split
    · next hlt =>
      refine List.pairwise_cons.mpr ⟨fun p hp ↦ ?_, h⟩
      rcases List.mem_cons.mp hp with rfl | hp
      · exact hlt
      · exact String.lt_trans hlt (hq p hp)
    split
    · next hnot hlt =>
      refine List.pairwise_cons.mpr ⟨fun p hp ↦ ?_, ih hrest⟩
      rcases fst_of_mem_insertInto hp with he | ⟨r, hr, he⟩
      · exact he ▸ hlt
      · exact he ▸ hq r hr
    · next hle hge =>
      have heq : name = q.1 := String.le_antisymm (String.not_lt.mp hge) (String.not_lt.mp hle)
      exact List.pairwise_cons.mpr ⟨fun p hp ↦ heq ▸ hq p hp, hrest⟩

def insert (m : NameMap α) (name : String) (a : α) : NameMap α :=
  ⟨insertInto name a m.bindings, keysAscend_insertInto name a m.keysAscend⟩

theorem lookup_insertInto (name : String) (a : α) (l : List (String × α)) (other : String) :
    (insertInto name a l).lookup other = if other = name then some a else l.lookup other := by
  induction l with
  | nil =>
    rw [insertInto, List.lookup_cons]
    by_cases h : other = name
    · simp [h]
    · simp [h, beq_eq_false_iff_ne.mpr h]
  | cons q rest ih =>
    obtain ⟨key, b⟩ := q
    rw [insertInto]
    split
    · rw [List.lookup_cons]
      by_cases h : other = name
      · simp [h]
      · simp [h, beq_eq_false_iff_ne.mpr h]
    split
    · next hlt =>
      have hne : key ≠ name := fun h ↦ String.lt_irrefl _ (h ▸ hlt)
      rw [List.lookup_cons, List.lookup_cons, ih]
      by_cases h : other = key
      · simp [h, hne]
      · simp [beq_eq_false_iff_ne.mpr h]
    · next hle hge =>
      have heq : name = key := String.le_antisymm (String.not_lt.mp hge) (String.not_lt.mp hle)
      rw [← heq, List.lookup_cons, List.lookup_cons]
      by_cases h : other = name
      · simp [h]
      · simp [h, beq_eq_false_iff_ne.mpr h]

theorem find?_insert (m : NameMap α) (name : String) (a : α) (other : String) :
    (m.insert name a).find? other = if other = name then some a else m.find? other :=
  lookup_insertInto name a m.bindings other

/-- To bind a name to what it is bound to changes nothing. -/
theorem insert_of_find? {m : NameMap α} {name : String} {a : α} (h : m.find? name = some a) :
    m.insert name a = m := by
  obtain ⟨l, hl⟩ := m
  apply ext
  replace h : l.lookup name = some a := h
  change insertInto name a l = l
  induction l with
  | nil => cases h
  | cons q rest ih =>
    obtain ⟨key, b⟩ := q
    have ⟨hfirst, hrest⟩ := List.pairwise_cons.mp hl
    rw [List.lookup_cons] at h
    rw [insertInto]
    by_cases heq : name = key
    · subst heq
      have hb : b = a := by simpa using h
      simp [hb]
    · rw [beq_eq_false_iff_ne.mpr heq] at h
      obtain ⟨_, _, hsplit, _⟩ := List.lookup_eq_some_iff.mp h
      have hlt : key < name := hfirst (name, a) (by simp [hsplit])
      have hnot : ¬ name < key := fun hback ↦ String.lt_irrefl _ (String.lt_trans hlt hback)
      rw [if_neg hnot, if_pos hlt, ih hrest h]

def erase (m : NameMap α) (name : String) : NameMap α :=
  ⟨m.bindings.filter (·.1 ≠ name), m.keysAscend.filter _⟩

theorem lookup_filter_ne (name : String) (l : List (String × α)) (other : String) :
    (l.filter (·.1 ≠ name)).lookup other = if other = name then none else l.lookup other := by
  induction l with
  | nil => split <;> rfl
  | cons q rest ih =>
    obtain ⟨key, a⟩ := q
    rw [List.filter_cons]
    by_cases hkey : key = name
    · rw [if_neg (by simpa using hkey), ih, List.lookup_cons]
      by_cases h : other = name
      · simp [h]
      · simp [h, beq_eq_false_iff_ne.mpr (hkey ▸ h : other ≠ key)]
    · rw [if_pos (by simpa using hkey), List.lookup_cons, List.lookup_cons, ih]
      by_cases h : other = key
      · simp [h, hkey]
      · simp [beq_eq_false_iff_ne.mpr h]

theorem find?_erase (m : NameMap α) (name other : String) :
    (m.erase name).find? other = if other = name then none else m.find? other :=
  lookup_filter_ne name m.bindings other

/-- The last binding of a name counts. -/
def ofList (l : List (String × α)) : NameMap α := l.foldl (fun m (name, a) ↦ m.insert name a) ∅

end NameMap

end ExportTable
