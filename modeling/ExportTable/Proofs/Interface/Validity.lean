import ExportTable.Interface.Validation

/-!
# Valid interfaces

`Valid` collects what the checks of `validate` are about, without their order and their errors. An
interface passes all checks exactly if it is valid.
-/

namespace ExportTable.Interface

structure Valid (interface : Interface) : Prop where
  isIdentifier : ∀ field ≠ NameField.capsuleKey, CSource.isIdentifier (interface.names.get field)
  capsuleKey_ne : interface.names.capsuleKey ≠ ""
  capsuleKey_fits : fitsStringLiteral interface.names.capsuleKey
  nodup_functionNames : interface.functionNames.Nodup
  map_index : interface.slots.map Slot.index = List.range interface.size

theorem identifierError?_eq_none_iff {names : Names} {field : NameField} :
    names.identifierError? field = none ↔ CSource.isIdentifier (names.get field) := by
  unfold Names.identifierError?
  by_cases hempty : names.get field = ""
  · simp [hempty, CSource.isIdentifier]
  · cases h : CSource.isIdentifier (names.get field) <;> simp [hempty, h]

theorem capsuleKeyError?_eq_none_iff {names : Names} :
    names.capsuleKeyError? = none ↔
      names.capsuleKey ≠ "" ∧ fitsStringLiteral names.capsuleKey := by
  unfold Names.capsuleKeyError?
  by_cases hempty : names.capsuleKey = ""
  · simp [hempty]
  · cases fitsStringLiteral names.capsuleKey <;> simp [hempty]

theorem firstRepeated?_eq_none_iff {seen names : List String} :
    firstRepeated? seen names = none ↔ names.Nodup ∧ ∀ name ∈ names, name ∉ seen := by
  induction names generalizing seen with
  | nil => simp [firstRepeated?]
  | cons name rest ih =>
    rw [firstRepeated?]
    by_cases hseen : name ∈ seen
    · simp [hseen]
    · rw [if_neg hseen, ih, List.nodup_cons, List.forall_mem_cons]
      constructor
      · rintro ⟨hrest, hnew⟩
        have hname : name ∉ rest := fun h ↦ hnew name h List.mem_cons_self
        exact ⟨⟨hname, hrest⟩, hseen, fun other h hmem ↦ hnew other h (List.mem_cons_of_mem _ hmem)⟩
      · rintro ⟨⟨hname, hrest⟩, _, hnew⟩
        refine ⟨hrest, fun other h hmem ↦ ?_⟩
        rcases List.mem_cons.mp hmem with rfl | hmem
        · exact hname h
        · exact hnew other h hmem

theorem firstGap?_eq_none_iff {position : Nat} {slots : List Slot} :
    firstGap? position slots = none ↔
      slots.map Slot.index = List.range' position slots.length := by
  induction slots generalizing position with
  | nil => simp [firstGap?]
  | cons slot rest ih =>
    rw [firstGap?, List.map_cons, List.length_cons, List.range'_succ, List.cons_eq_cons]
    by_cases hindex : slot.index = position
    · rw [if_pos hindex, ih]
      exact (and_iff_right hindex).symm
    · simp [hindex]

/-- Validation succeeds exactly on the valid interfaces. -/
theorem validate_eq_ok_iff {interface : Interface} :
    interface.validate = .ok () ↔ interface.Valid := by
  have herror : interface.validate = .ok () ↔ interface.validationError? = none := by
    unfold validate
    cases interface.validationError? <;> simp
  rw [herror]
  simp only [validationError?, Option.or_eq_none_iff, List.findSome?_eq_none_iff,
    Option.map_eq_none_iff, identifierError?_eq_none_iff, NameField.mem_identifiers_iff,
    capsuleKeyError?_eq_none_iff, firstRepeated?_eq_none_iff, firstGap?_eq_none_iff]
  constructor
  · rintro ⟨⟨⟨hidentifiers, hkey, hfits⟩, hnames, _⟩, hindices⟩
    exact ⟨hidentifiers, hkey, hfits, hnames, by rw [hindices, List.range_eq_range', size]⟩
  · rintro ⟨hidentifiers, hkey, hfits, hnames, hindices⟩
    refine ⟨⟨⟨hidentifiers, hkey, hfits⟩, hnames, by simp⟩, ?_⟩
    rw [hindices, List.range_eq_range', size]

end ExportTable.Interface
