import ExportTable.Proofs.CSource.Identifiers
import ExportTable.Proofs.Interface.Validity

/-!
# Validation after any history

An interface starts without functions and is then edited. Whatever the edits were, validation tells
exactly whether the names are C identifiers, the capsule key fits between quotes, no two functions
share a name and every function has its position as its index; and if not, it reports the first of
these conditions that fails, with the place where it fails first. Only edits that write an index or
take a function away can leave a function with another index than its position.
-/

namespace ExportTable.Interface

/-! ## Conditions -/

/-- A letter or underscore, with letters, digits and underscores after it. -/
def IsCName (text : String) : Prop :=
  ∃ first rest, text.toList = first :: rest ∧ (first.isAlpha ∨ first = '_') ∧
    ∀ c ∈ rest, c.isAlphanum ∨ c = '_'

def Names.AreCNames (names : Names) : Prop :=
  ∀ field ∈ NameField.identifiers, IsCName (names.get field)

/-- The key stands for itself between the quotes of a string literal. -/
def Names.KeyFits (names : Names) : Prop :=
  names.capsuleKey ≠ "" ∧ '"' ∉ names.capsuleKey.toList ∧ '\\' ∉ names.capsuleKey.toList ∧
    '\n' ∉ names.capsuleKey.toList

/-- Every function has its position as its index. -/
def InPlace (slots : List Slot) : Prop :=
  ∀ (position : Nat) (slot : Slot), slots[position]? = some slot → slot.index = position

/-- The error reports the first condition that fails, and the first place where it fails. -/
inductive FirstFault (interface : Interface) : ValidationError → Prop
  | emptyName {earlier later : List NameField} {field : NameField}
      (hfields : NameField.identifiers = earlier ++ field :: later)
      (hearlier : ∀ other ∈ earlier, IsCName (interface.names.get other))
      (hempty : interface.names.get field = "") :
      FirstFault interface (.emptyName field)
  | invalidIdentifier {earlier later : List NameField} {field : NameField}
      (hfields : NameField.identifiers = earlier ++ field :: later)
      (hearlier : ∀ other ∈ earlier, IsCName (interface.names.get other))
      (hne : interface.names.get field ≠ "") (hinvalid : ¬ IsCName (interface.names.get field)) :
      FirstFault interface (.invalidIdentifier field (interface.names.get field))
  | emptyKey (hnames : interface.names.AreCNames) (hempty : interface.names.capsuleKey = "") :
      FirstFault interface (.emptyName .capsuleKey)
  | invalidKey (hnames : interface.names.AreCNames) (hne : interface.names.capsuleKey ≠ "")
      (hinvalid : ¬ interface.names.KeyFits) :
      FirstFault interface (.invalidCapsuleKey interface.names.capsuleKey)
  | duplicateFunction (hnames : interface.names.AreCNames) (hkey : interface.names.KeyFits)
      {earlier later : List String} {name : String}
      (hfunctions : interface.functionNames = earlier ++ name :: later)
      (hearlier : earlier.Nodup) (hmem : name ∈ earlier) :
      FirstFault interface (.duplicateFunction name)
  | indexGap (hnames : interface.names.AreCNames) (hkey : interface.names.KeyFits)
      (hfunctions : interface.functionNames.Nodup) {earlier later : List Slot} {slot : Slot}
      (hslots : interface.slots = earlier ++ slot :: later) (hearlier : InPlace earlier)
      (hindex : slot.index ≠ earlier.length) :
      FirstFault interface (.indexGap slot.name earlier.length slot.index)

variable {interface : Interface} {names : Names} {field : NameField} {e : ValidationError}

theorem isIdentifier_iff_isCName {text : String} : CSource.isIdentifier text ↔ IsCName text := by
  rw [CSource.isIdentifier_iff, IsCName]
  simp only [CSource.startsIdentifier, CSource.continuesIdentifier, List.all_eq_true,
    Bool.or_eq_true, beq_iff_eq]

instance : DecidablePred IsCName := fun _ ↦ decidable_of_iff _ isIdentifier_iff_isCName

instance : Decidable names.AreCNames :=
  inferInstanceAs (Decidable (∀ field ∈ NameField.identifiers, IsCName (names.get field)))

instance : Decidable names.KeyFits := inferInstanceAs (Decidable (_ ∧ _ ∧ _ ∧ _))

theorem keyFits_iff :
    names.KeyFits ↔ names.capsuleKey ≠ "" ∧ fitsStringLiteral names.capsuleKey := by
  rw [Names.KeyFits, fitsStringLiteral, List.all_eq_true]
  refine and_congr_right fun _ ↦ ⟨?_, fun h ↦ ?_⟩
  · rintro ⟨hquote, hbackslash, hfeed⟩ c hc
    rw [decide_eq_true_eq]
    exact ⟨fun h ↦ hquote (h ▸ hc), fun h ↦ hbackslash (h ▸ hc), fun h ↦ hfeed (h ▸ hc)⟩
  · exact ⟨fun hc ↦ absurd (h _ hc) (by decide), fun hc ↦ absurd (h _ hc) (by decide),
      fun hc ↦ absurd (h _ hc) (by decide)⟩

theorem inPlace_iff {slots : List Slot} :
    InPlace slots ↔ slots.map Slot.index = List.range slots.length := by
  constructor
  · intro h
    apply List.ext_getElem (by simp)
    intro position hposition _
    simpa using h position _ (List.getElem?_eq_getElem (by simpa using hposition))
  · intro h position slot hslot
    have hindex : (slots.map Slot.index)[position]? = some slot.index := by
      rw [List.getElem?_map, hslot, Option.map_some]
    rw [h, List.getElem?_range (List.getElem?_eq_some_iff.mp hslot).1] at hindex
    exact (Option.some.inj hindex).symm

/-! ## First faults -/

theorem identifierError?_eq_some_iff :
    names.identifierError? field = some e ↔
      names.get field = "" ∧ e = .emptyName field ∨
        names.get field ≠ "" ∧ ¬ IsCName (names.get field) ∧
          e = .invalidIdentifier field (names.get field) := by
  rw [Names.identifierError?, ← isIdentifier_iff_isCName]
  by_cases hempty : names.get field = ""
  · simp [hempty, eq_comm (a := e)]
  · by_cases hvalid : CSource.isIdentifier (names.get field) <;>
      simp [hempty, hvalid, eq_comm (a := e)]

theorem capsuleKeyError?_eq_some_iff :
    names.capsuleKeyError? = some e ↔
      names.capsuleKey = "" ∧ e = .emptyName .capsuleKey ∨
        names.capsuleKey ≠ "" ∧ ¬ names.KeyFits ∧ e = .invalidCapsuleKey names.capsuleKey := by
  rw [Names.capsuleKeyError?, keyFits_iff]
  by_cases hempty : names.capsuleKey = ""
  · simp [hempty, eq_comm (a := e)]
  · by_cases hfits : fitsStringLiteral names.capsuleKey <;>
      simp [hempty, hfits, eq_comm (a := e)]

theorem firstRepeated?_eq_some_iff {seen names : List String} {name : String} :
    firstRepeated? seen names = some name ↔
      ∃ earlier later, names = earlier ++ name :: later ∧ earlier.Nodup ∧
        (∀ other ∈ earlier, other ∉ seen) ∧ (name ∈ seen ∨ name ∈ earlier) := by
  induction names generalizing seen with
  | nil => simp [firstRepeated?]
  | cons first rest ih =>
    rw [firstRepeated?]
    by_cases hseen : first ∈ seen
    · rw [if_pos hseen, Option.some_inj]
      constructor
      · rintro rfl
        exact ⟨[], rest, rfl, List.nodup_nil, by simp, .inl hseen⟩
      · rintro ⟨_ | ⟨other, earlier⟩, later, hnames, _, hnew, _⟩
        · exact (List.cons.inj hnames).1
        · exact absurd ((List.cons.inj hnames).1 ▸ hseen) (hnew other List.mem_cons_self)
    · -- A name that is passed counts among those seen for the rest.
      rw [if_neg hseen, ih]
      constructor
      · rintro ⟨earlier, later, rfl, hnodup, hnew, hmem⟩
        refine ⟨first :: earlier, later, rfl, List.nodup_cons.mpr ⟨?_, hnodup⟩, ?_, ?_⟩
        · exact fun hfirst ↦ hnew first hfirst List.mem_cons_self
        · rintro other (_ | ⟨_, hother⟩)
          · exact hseen
          · exact fun hmem ↦ hnew other hother (List.mem_cons_of_mem _ hmem)
        · simpa [or_left_comm, or_assoc] using hmem
      · rintro ⟨_ | ⟨other, earlier⟩, later, hnames, hnodup, hnew, hmem⟩
        · obtain ⟨rfl, -⟩ := List.cons.inj hnames
          exact absurd hmem (by simpa using hseen)
        · obtain ⟨rfl, rfl⟩ := List.cons.inj hnames
          obtain ⟨hfirst, hnodup⟩ := List.nodup_cons.mp hnodup
          refine ⟨earlier, later, rfl, hnodup, fun other hother ↦ ?_, ?_⟩
          · rintro (_ | ⟨_, hmem⟩)
            · exact hfirst hother
            · exact hnew other (List.mem_cons_of_mem _ hother) hmem
          · simpa [or_left_comm, or_assoc] using hmem

theorem firstGap?_eq_some_iff {position : Nat} {slots : List Slot} :
    firstGap? position slots = some e ↔
      ∃ earlier slot later, slots = earlier ++ slot :: later ∧
        earlier.map Slot.index = List.range' position earlier.length ∧
        slot.index ≠ position + earlier.length ∧
        e = .indexGap slot.name (position + earlier.length) slot.index := by
  induction slots generalizing position with
  | nil => simp [firstGap?]
  | cons first rest ih =>
    rw [firstGap?]
    by_cases hindex : first.index = position
    · -- A slot that is in place moves the expected index on.
      rw [if_pos hindex, ih]
      constructor
      · rintro ⟨earlier, slot, later, rfl, hearlier, hslot, rfl⟩
        have hlength : position + 1 + earlier.length = position + (first :: earlier).length := by
          rw [List.length_cons, Nat.add_right_comm, Nat.add_assoc]
        refine ⟨first :: earlier, slot, later, rfl, ?_, hlength ▸ hslot, by rw [hlength]⟩
        rw [List.map_cons, List.length_cons, List.range'_succ, hearlier, hindex]
      · rintro ⟨_ | ⟨other, earlier⟩, slot, later, hslots, hearlier, hslot, rfl⟩
        · obtain ⟨rfl, -⟩ := List.cons.inj hslots
          exact absurd hindex hslot
        · obtain ⟨rfl, rfl⟩ := List.cons.inj hslots
          have hlength : position + 1 + earlier.length = position + (first :: earlier).length := by
            rw [List.length_cons, Nat.add_right_comm, Nat.add_assoc]
          exact ⟨earlier, slot, later, rfl, (List.cons.inj hearlier).2, hlength ▸ hslot,
            by rw [hlength]⟩
    · rw [if_neg hindex, Option.some_inj]
      constructor
      · rintro rfl
        exact ⟨[], first, rest, rfl, rfl, hindex, rfl⟩
      · rintro ⟨_ | ⟨other, earlier⟩, slot, later, hslots, hearlier, hslot, rfl⟩
        · obtain ⟨rfl, -⟩ := List.cons.inj hslots
          rfl
        · obtain ⟨rfl, -⟩ := List.cons.inj hslots
          exact absurd (List.cons.inj hearlier).1 hindex

/-! ## Groups of checks -/

theorem identifierError?_eq_none_iff_isCName :
    names.identifierError? field = none ↔ IsCName (names.get field) := by
  rw [identifierError?_eq_none_iff, isIdentifier_iff_isCName]

theorem areCNames_iff :
    names.AreCNames ↔ NameField.identifiers.findSome? names.identifierError? = none := by
  simp only [Names.AreCNames, List.findSome?_eq_none_iff, identifierError?_eq_none_iff_isCName]

theorem findSome?_identifierError?_eq_some_iff :
    NameField.identifiers.findSome? names.identifierError? = some e ↔
      ∃ earlier field later, NameField.identifiers = earlier ++ field :: later ∧
        names.identifierError? field = some e ∧
        ∀ other ∈ earlier, IsCName (names.get other) := by
  simp only [List.findSome?_eq_some_iff, identifierError?_eq_none_iff_isCName]

theorem keyFits_iff_error : names.KeyFits ↔ names.capsuleKeyError? = none := by
  rw [keyFits_iff, capsuleKeyError?_eq_none_iff]

theorem nodup_functionNames_iff :
    interface.functionNames.Nodup ↔
      (firstRepeated? [] interface.functionNames).map ValidationError.duplicateFunction = none := by
  simp [firstRepeated?_eq_none_iff]

theorem duplicateFunction_eq_some_iff :
    (firstRepeated? [] interface.functionNames).map ValidationError.duplicateFunction = some e ↔
      ∃ earlier name later, interface.functionNames = earlier ++ name :: later ∧
        earlier.Nodup ∧ name ∈ earlier ∧ e = .duplicateFunction name := by
  rw [Option.map_eq_some_iff]
  simp only [firstRepeated?_eq_some_iff, List.not_mem_nil, false_or]
  constructor
  · rintro ⟨name, ⟨earlier, later, hnames, hnodup, -, hmem⟩, rfl⟩
    exact ⟨earlier, name, later, hnames, hnodup, hmem, rfl⟩
  · rintro ⟨earlier, name, later, hnames, hnodup, hmem, rfl⟩
    exact ⟨name, ⟨earlier, later, hnames, hnodup, fun _ _ ↦ not_false, hmem⟩, rfl⟩

theorem indexGap_eq_some_iff {slots : List Slot} :
    firstGap? 0 slots = some e ↔
      ∃ earlier slot later, slots = earlier ++ slot :: later ∧ InPlace earlier ∧
        slot.index ≠ earlier.length ∧ e = .indexGap slot.name earlier.length slot.index := by
  simp only [firstGap?_eq_some_iff, Nat.zero_add, inPlace_iff, List.range_eq_range']

/-- Each group of checks reports its own faults, if the groups before it pass. -/
theorem validationError?_eq_some_iff :
    interface.validationError? = some e ↔ FirstFault interface e := by
  simp only [validationError?, Option.or_eq_some_iff, Option.or_eq_none_iff, ← areCNames_iff,
    ← keyFits_iff_error, ← nodup_functionNames_iff, findSome?_identifierError?_eq_some_iff,
    identifierError?_eq_some_iff, capsuleKeyError?_eq_some_iff, duplicateFunction_eq_some_iff,
    indexGap_eq_some_iff]
  constructor
  · rintro (((h | ⟨hnames, h⟩) | ⟨⟨hnames, hkey⟩, h⟩) | ⟨⟨⟨hnames, hkey⟩, hfunctions⟩, h⟩)
    · obtain ⟨earlier, field, later, hfields, ⟨hempty, rfl⟩ | ⟨hne, hinvalid, rfl⟩, hearlier⟩ := h
      · exact .emptyName hfields hearlier hempty
      · exact .invalidIdentifier hfields hearlier hne hinvalid
    · obtain ⟨hempty, rfl⟩ | ⟨hne, hinvalid, rfl⟩ := h
      · exact .emptyKey hnames hempty
      · exact .invalidKey hnames hne hinvalid
    · obtain ⟨earlier, name, later, hfunctions, hearlier, hmem, rfl⟩ := h
      exact .duplicateFunction hnames hkey hfunctions hearlier hmem
    · obtain ⟨earlier, slot, later, hslots, hearlier, hindex, rfl⟩ := h
      exact .indexGap hnames hkey hfunctions hslots hearlier hindex
  · intro h
    cases h with
    | emptyName hfields hearlier hempty =>
      exact .inl (.inl (.inl ⟨_, _, _, hfields, .inl ⟨hempty, rfl⟩, hearlier⟩))
    | invalidIdentifier hfields hearlier hne hinvalid =>
      exact .inl (.inl (.inl ⟨_, _, _, hfields, .inr ⟨hne, hinvalid, rfl⟩, hearlier⟩))
    | emptyKey hnames hempty => exact .inl (.inl (.inr ⟨hnames, .inl ⟨hempty, rfl⟩⟩))
    | invalidKey hnames hne hinvalid =>
      exact .inl (.inl (.inr ⟨hnames, .inr ⟨hne, hinvalid, rfl⟩⟩))
    | duplicateFunction hnames hkey hfunctions hearlier hmem =>
      exact .inl (.inr ⟨⟨hnames, hkey⟩, _, _, _, hfunctions, hearlier, hmem, rfl⟩)
    | indexGap hnames hkey hfunctions hslots hearlier hindex =>
      exact .inr ⟨⟨⟨hnames, hkey⟩, hfunctions⟩, _, _, _, hslots, hearlier, hindex, rfl⟩

theorem validate_eq_error_iff : interface.validate = .error e ↔ FirstFault interface e := by
  rw [← validationError?_eq_some_iff, validate]
  cases interface.validationError? <;> simp

theorem validate_eq_ok_iff_conditions :
    interface.validate = .ok () ↔
      interface.names.AreCNames ∧ interface.names.KeyFits ∧ interface.functionNames.Nodup ∧
        InPlace interface.slots := by
  rw [validate_eq_ok_iff]
  constructor
  · intro h
    exact ⟨fun field hfield ↦ isIdentifier_iff_isCName.mp
        (h.isIdentifier field (NameField.mem_identifiers_iff.mp hfield)),
      keyFits_iff.mpr ⟨h.capsuleKey_ne, h.capsuleKey_fits⟩, h.nodup_functionNames,
      inPlace_iff.mpr h.map_index⟩
  · rintro ⟨hnames, hkey, hfunctions, hslots⟩
    exact ⟨fun field hfield ↦ isIdentifier_iff_isCName.mpr
        (hnames field (NameField.mem_identifiers_iff.mpr hfield)),
      (keyFits_iff.mp hkey).1, (keyFits_iff.mp hkey).2, hfunctions, inPlace_iff.mp hslots⟩

/-! ## Histories -/

/-- The edit neither writes an index nor takes a function away. -/
def Edit.KeepsIndices : Edit → Prop
  | .setIndex _ _ | .removeAt _ => False
  | .setSignatures _ | .append _ | .setDoc _ | .setNames _ => True

theorem inPlace_edit {edit : Edit} (hedit : edit.KeepsIndices) (h : InPlace interface.slots) :
    InPlace (interface.edit edit).slots := by
  rw [inPlace_iff] at h ⊢
  cases edit with
  | setSignatures signatures =>
    rw [Interface.edit, Slot.map_index_assign, Slot.assign, List.length_map, List.length_zipIdx]
  | append signature =>
    rw [Interface.edit, List.map_append, h, List.length_append, List.length_singleton,
      List.range_succ]
    rfl
  | setDoc | setNames => exact h
  | setIndex | removeAt => cases hedit

theorem inPlace_editAll {edits : List Edit} (hedits : ∀ edit ∈ edits, edit.KeepsIndices)
    (h : InPlace interface.slots) : InPlace (interface.editAll edits).slots := by
  induction edits generalizing interface with
  | nil => exact h
  | cons edit rest ih =>
    obtain ⟨hedit, hrest⟩ := List.forall_mem_cons.mp hedits
    exact ih hrest (inPlace_edit hedit h)

/-- Whatever edits an interface went through, validation passes exactly if all conditions hold, and
otherwise it reports the first fault. Without edits that write an index or take a function away, the
indices count the functions and no gap is reported. -/
theorem validate_editAll (names : Names) (edits : List Edit) :
    let interface := editAll { names } edits
    (interface.validate = .ok () ↔
      interface.names.AreCNames ∧ interface.names.KeyFits ∧ interface.functionNames.Nodup ∧
        InPlace interface.slots) ∧
    (∀ e, interface.validate = .error e ↔ FirstFault interface e) ∧
    ((∀ edit ∈ edits, edit.KeepsIndices) →
      interface.slots.map Slot.index = List.range interface.size ∧
        ∀ name expected found, interface.validate ≠ .error (.indexGap name expected found)) := by
  intro interface
  refine ⟨validate_eq_ok_iff_conditions, fun e ↦ validate_eq_error_iff, fun hedits ↦ ?_⟩
  have hslots : InPlace interface.slots := inPlace_editAll hedits (inPlace_iff.mpr rfl)
  refine ⟨inPlace_iff.mp hslots, fun name expected found herror ↦ ?_⟩
  cases validate_eq_error_iff.mp herror with
  | @indexGap _ _ _ earlier later slot hsplit _ hindex =>
    refine hindex (hslots earlier.length slot ?_)
    rw [hsplit, List.getElem?_append_right (Nat.le_refl _), Nat.sub_self, List.getElem?_cons_zero]

/-- Two functions share a name; without one of them there is a gap. -/
def repeatedEdits : List Edit :=
  [.setSignatures [⟨"void", "sync", "(void)"⟩, ⟨"void", "flush", "(void)"⟩],
   .append ⟨"int", "sync", "(int)"⟩, .setDoc "C API", .setNames { guard := "API_H" }]

theorem validate_editAll_repeatedEdits :
    (∀ edit ∈ repeatedEdits, edit.KeepsIndices) ∧
      (editAll { names := {} } repeatedEdits).slots.map Slot.index = [0, 1, 2] ∧
      (editAll { names := {} } repeatedEdits).validate = .error (.duplicateFunction "sync") ∧
      (editAll { names := {} } (repeatedEdits ++ [.removeAt 0])).validate =
        .error (.indexGap "flush" 0 1) := by
  have hkeeps : ∀ edit ∈ repeatedEdits, edit.KeepsIndices := by
    simp [repeatedEdits, Edit.KeepsIndices]
  obtain ⟨_, hrepeated, hindices⟩ := validate_editAll {} repeatedEdits
  obtain ⟨_, hgap, _⟩ := validate_editAll {} (repeatedEdits ++ [.removeAt 0])
  have hnames : (editAll { names := {} } repeatedEdits).names.AreCNames := by decide +kernel
  have hkey : (editAll { names := {} } repeatedEdits).names.KeyFits := by decide +kernel
  have hfunctions : (editAll { names := {} } repeatedEdits).functionNames =
      ["sync", "flush"] ++ "sync" :: [] := rfl
  have hslots : (editAll { names := {} } (repeatedEdits ++ [.removeAt 0])).slots =
      [] ++ ⟨1, ⟨"void", "flush", "(void)"⟩⟩ :: [⟨2, ⟨"int", "sync", "(int)"⟩⟩] := rfl
  refine ⟨hkeeps, (hindices hkeeps).1, (hrepeated _).mpr ?_, (hgap _).mpr ?_⟩
  · exact .duplicateFunction hnames hkey hfunctions (by decide) (by decide)
  · exact .indexGap (by decide +kernel) (by decide +kernel) (by decide) hslots
      (by simp [InPlace]) (by decide)

end ExportTable.Interface
