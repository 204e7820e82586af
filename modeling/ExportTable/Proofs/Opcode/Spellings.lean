import ExportTable.Proofs.Json.Lenient
import ExportTable.Proofs.Json.RoundTrip

/-!
# Hand-edited opcodes

The texts of an opcode are those of the objects that spell it: its fields in any order, each at most
once, beside any other members, numbers and truth values in their lenient spellings, and fields with
a default left out. Such a text is read as this opcode if its numbers have 32 bits. If a number has
up to 64 bits, the first one that is too large is reported, and nothing else is ever read.
-/

namespace ExportTable.Opcode

open Json Record

def fieldNames : List String :=
  ["opcode", "id", "nop", "elementwise", "system_opcode", "types"]

def memberNames (members : List (Option String × Draft)) : List String :=
  members.filterMap Prod.fst

/-- The members of an object that spell the opcode. -/
structure SpelledBy (o : Opcode) (members : List (Option String × Draft)) : Prop where
  /-- Every member has a name. -/
  named : ∀ member ∈ members, member.1.isSome
  /-- No field is given twice. -/
  once : ((memberNames members).filter (· ∈ fieldNames)).Nodup
  name : (some "opcode", .string (some o.name)) ∈ members
  id : ∃ d, (some "id", d) ∈ members ∧ SpellsNatural o.id d
  operands : ∃ d, (some "nop", d) ∈ members ∧ SpellsNatural o.operands d
  elementwise : ∃ d, (some "elementwise", d) ∈ members ∧ SpellsBool o.elementwise d
  isSystem : (∃ d, (some "system_opcode", d) ∈ members ∧ SpellsBool o.isSystem d) ∨
    (∀ d, (some "system_opcode", d) ∉ members) ∧ o.isSystem = false
  rows : (some "types", (rowsToJson o.rows).draft) ∈ members ∨
    (∀ d, (some "types", d) ∉ members) ∧ o.rows = []

/-! ## What is read -/

theorem rowsReader_eq_ok_iff {d : Draft} {rows : List (List String)} :
    rowsReader d = .ok rows ↔ d = (rowsToJson rows).draft :=
  Reader.list_eq_ok_iff fun _ _ ↦ Reader.list_eq_ok_iff fun _ _ ↦ Reader.text_eq_ok_iff

theorem reads_record_iff {given : Given} {o : Opcode} :
    record.Reads given o ↔
      (∃ d, given.find? "opcode" = some d ∧ Reader.text d = .ok o.name) ∧
      (∃ d, given.find? "id" = some d ∧ Reader.lenientNatural d = .ok o.id) ∧
      (∃ d, given.find? "nop" = some d ∧ Reader.lenientNatural d = .ok o.operands) ∧
      (∃ d, given.find? "elementwise" = some d ∧ Reader.lenientBool d = .ok o.elementwise) ∧
      ((∃ d, given.find? "system_opcode" = some d ∧ Reader.lenientBool d = .ok o.isSystem) ∨
        given.find? "system_opcode" = none ∧ o.isSystem = false) ∧
      ((∃ d, given.find? "types" = some d ∧ rowsReader d = .ok o.rows) ∨
        given.find? "types" = none ∧ o.rows = []) := by
  unfold record
  simp only [reads_seq_iff, reads_map_iff, reads_field_iff, reads_fieldOr_iff]
  constructor
  · rintro ⟨_, rows, ⟨_, isSystem, ⟨_, elementwise, ⟨_, operands, ⟨_, id, ⟨name, hname, rfl⟩,
      hid, rfl⟩, hoperands, rfl⟩, helementwise, rfl⟩, hsystem, rfl⟩, hrows, rfl⟩
    exact ⟨hname, hid, hoperands, helementwise, hsystem, hrows⟩
  · rintro ⟨hname, hid, hoperands, helementwise, hsystem, hrows⟩
    exact ⟨_, o.rows, ⟨_, o.isSystem, ⟨_, o.elementwise, ⟨_, o.operands, ⟨_, o.id,
      ⟨o.name, hname, rfl⟩, hid, rfl⟩, hoperands, rfl⟩, helementwise, rfl⟩, hsystem, rfl⟩,
      hrows, rfl⟩

variable {members : List (Option String × Draft)}

/-- The members and the values of an object that was read from a text. -/
def HaveTexts (members : List (Option String × Draft)) : Prop :=
  ∀ member ∈ members, ∃ cs, member.2.HasText cs

theorem HaveTexts.othersAreWhole (h : HaveTexts members) (fields : List (String × Reader Unit)) :
    OthersAreWhole fields members := by
  intro name d hmem _
  obtain ⟨cs, htext⟩ := h _ hmem
  exact htext.isWhole

theorem nodup_known_iff : ((known record.fields members).map Prod.fst).Nodup ↔
    ((memberNames members).filter (· ∈ fieldNames)).Nodup := by
  rw [map_fst_known]
  rfl

/-- A field is read of the member that spells it. -/
theorem exists_given_iff (honce : ((known record.fields members).map Prod.fst).Nodup)
    (htexts : HaveTexts members) {name : String} (hname : name ∈ record.fields.map Prod.fst)
    {read : Reader α} {a : α} {spells : Draft → Prop}
    (h : ∀ d cs, d.HasText cs → (read d = .ok a ↔ spells d)) :
    (∃ d, Given.find? ⟨true, known record.fields members⟩ name = some d ∧ read d = .ok a) ↔
      ∃ d, (some name, d) ∈ members ∧ spells d := by
  refine exists_congr fun d ↦ ?_
  rw [find?_known_eq_some_iff honce hname]
  refine and_congr_right fun hmem ↦ ?_
  obtain ⟨cs, htext⟩ := htexts _ hmem
  exact h d cs htext

theorem reads_known_iff (honce : ((known record.fields members).map Prod.fst).Nodup)
    (htexts : HaveTexts members) {o : Opcode} :
    record.Reads ⟨true, known record.fields members⟩ o ↔
      (∃ d, (some "opcode", d) ∈ members ∧ d = .string (some o.name)) ∧
      (∃ d, (some "id", d) ∈ members ∧ SpellsNatural o.id d ∧ o.id < UInt32.size) ∧
      (∃ d, (some "nop", d) ∈ members ∧ SpellsNatural o.operands d ∧ o.operands < UInt32.size) ∧
      (∃ d, (some "elementwise", d) ∈ members ∧ SpellsBool o.elementwise d) ∧
      ((∃ d, (some "system_opcode", d) ∈ members ∧ SpellsBool o.isSystem d) ∨
        (∀ d, (some "system_opcode", d) ∉ members) ∧ o.isSystem = false) ∧
      ((∃ d, (some "types", d) ∈ members ∧ d = (rowsToJson o.rows).draft) ∨
        (∀ d, (some "types", d) ∉ members) ∧ o.rows = []) := by
  have hname (d : Draft) (cs : List Char) (_ : d.HasText cs) :
      Reader.text d = .ok o.name ↔ d = .string (some o.name) := by
    rw [Reader.text_eq_ok_iff, Value.draft]
  rw [reads_record_iff, exists_given_iff honce htexts (by decide) hname,
    exists_given_iff honce htexts (by decide) fun _ _ ↦ Reader.lenientNatural_eq_ok_iff,
    exists_given_iff honce htexts (by decide) fun _ _ ↦ Reader.lenientNatural_eq_ok_iff,
    exists_given_iff honce htexts (by decide) fun _ _ ↦ Reader.lenientBool_eq_ok_iff,
    exists_given_iff honce htexts (by decide) fun _ _ ↦ Reader.lenientBool_eq_ok_iff,
    exists_given_iff honce htexts (by decide) fun _ _ _ ↦ rowsReader_eq_ok_iff,
    find?_known_eq_none_iff honce (by decide), find?_known_eq_none_iff honce (by decide)]

/-- An object is read as an opcode exactly if it spells the opcode, and the numbers have 32 bits. -/
theorem readMembers_eq_ok_iff_spelledBy (htexts : HaveTexts members) {o : Opcode} :
    record.readMembers members true = .ok o ↔ o.SpelledBy members ∧ o.Fits := by
  rw [readMembers_eq_ok_iff (by decide) (htexts.othersAreWhole _)]
  constructor
  · rintro ⟨hnamed, honce, hreads⟩
    obtain ⟨⟨_, hname, rfl⟩, ⟨id, hid, hspellsId, hidFits⟩,
      ⟨operands, hoperands, hspellsOperands, hoperandsFit⟩, helementwise, hsystem, hrows⟩ :=
      (reads_known_iff honce htexts).mp hreads
    refine ⟨⟨hnamed, nodup_known_iff.mp honce, hname, ⟨id, hid, hspellsId⟩,
      ⟨operands, hoperands, hspellsOperands⟩, helementwise, hsystem, ?_⟩, hidFits, hoperandsFit⟩
    rcases hrows with ⟨_, hrows, rfl⟩ | hnone
    · exact .inl hrows
    · exact .inr hnone
  · rintro ⟨h, hidFits, hoperandsFit⟩
    have honce := nodup_known_iff.mpr h.once
    obtain ⟨id, hid, hspellsId⟩ := h.id
    obtain ⟨operands, hoperands, hspellsOperands⟩ := h.operands
    refine ⟨h.named, honce, (reads_known_iff honce htexts).mpr ⟨⟨_, h.name, rfl⟩,
      ⟨id, hid, hspellsId, hidFits⟩, ⟨operands, hoperands, hspellsOperands, hoperandsFit⟩,
      h.elementwise, h.isSystem, ?_⟩⟩
    rcases h.rows with hrows | hnone
    · exact .inl ⟨_, hrows, rfl⟩
    · exact .inr hnone

/-! ## Numbers that are too large -/

/-- The number of a field if it has more than 32 bits. -/
def tooLarge? (o : Opcode) (name : String) : Option Nat :=
  if name = "id" then (some o.id).filter (UInt32.size ≤ ·)
  else if name = "nop" then (some o.operands).filter (UInt32.size ≤ ·)
  else none

/-- The first number with more than 32 bits in the order of the members. -/
def firstTooLarge? (o : Opcode) (members : List (Option String × Draft)) : Option Nat :=
  (memberNames members).findSome? o.tooLarge?

/-- What is reported of a field. -/
def fault? (o : Opcode) (name : String) : Option ReadError := (o.tooLarge? name).map .outOfRange

theorem tooLarge?_eq_none {o : Opcode} {name : String} (hid : name ≠ "id") (hnop : name ≠ "nop") :
    o.tooLarge? name = none := by
  rw [tooLarge?, if_neg hid, if_neg hnop]

theorem mem_memberNames {name : String} {d : Draft} (h : (some name, d) ∈ members) :
    name ∈ memberNames members :=
  List.mem_filterMap.mpr ⟨_, h, rfl⟩

theorem filter_size_eq_none_iff {n : Nat} :
    (some n).filter (UInt32.size ≤ ·) = none ↔ n < UInt32.size := by
  rw [Option.filter_some]
  split
  · next hlarge => exact iff_of_false nofun (by simpa using hlarge)
  · next hsmall => exact iff_of_true rfl (by simpa using hsmall)

theorem firstTooLarge?_eq_none_iff {o : Opcode} (h : o.SpelledBy members) :
    o.firstTooLarge? members = none ↔ o.Fits := by
  obtain ⟨_, hid, -⟩ := h.id
  obtain ⟨_, hoperands, -⟩ := h.operands
  have hidNone : o.tooLarge? "id" = none ↔ o.id < UInt32.size := filter_size_eq_none_iff
  have hoperandsNone : o.tooLarge? "nop" = none ↔ o.operands < UInt32.size :=
    filter_size_eq_none_iff
  rw [firstTooLarge?, List.findSome?_eq_none_iff, Fits, ← hidNone, ← hoperandsNone]
  constructor
  · intro hnone
    exact ⟨hnone _ (mem_memberNames hid), hnone _ (mem_memberNames hoperands)⟩
  · rintro ⟨hid, hoperands⟩ name -
    by_cases hname : name = "id"
    · exact hname ▸ hid
    by_cases hnop : name = "nop"
    · exact hnop ▸ hoperands
    exact tooLarge?_eq_none hname hnop

theorem findSome?_known {f : String → Option α} (h : ∀ name ∉ fieldNames, f name = none) :
    ((known record.fields members).map Prod.fst).findSome? f =
      (memberNames members).findSome? f := by
  rw [map_fst_known]
  change ((memberNames members).filter (· ∈ fieldNames)).findSome? f = _
  induction memberNames members with
  | nil => rfl
  | cons name rest ih =>
    by_cases hname : name ∈ fieldNames
    · rw [List.filter_cons_of_pos (by simpa using hname), List.findSome?_cons,
        List.findSome?_cons, ih]
    · rw [List.filter_cons_of_neg (by simpa using hname), List.findSome?_cons, h name hname, ih]

theorem SpelledBy.eq_of_mem {o : Opcode} (h : o.SpelledBy members) {name : String}
    (hname : name ∈ record.fields.map Prod.fst) {d other : Draft} (hd : (some name, d) ∈ members)
    (hother : (some name, other) ∈ members) : d = other := by
  have honce := nodup_known_iff.mpr h.once
  rw [← find?_known_eq_some_iff honce hname] at hd hother
  exact Option.some.inj (hd.symm.trans hother)

/-- The check of a number of up to 64 bits. -/
theorem check_of_spellsNatural {n : Nat} {d : Draft} (h : SpellsNatural n d)
    (hwide : n < UInt64.size) :
    Record.check Reader.lenientNatural d =
      checked (((some n).filter (UInt32.size ≤ ·)).map .outOfRange) := by
  rw [Record.check, Reader.lenientNatural_of_spells h hwide, Option.filter_some]
  by_cases hnarrow : n < UInt32.size
  · rw [if_pos hnarrow, if_neg (by simpa using hnarrow)]
    rfl
  · rw [if_neg hnarrow, if_pos (by simpa using hnarrow)]
    rfl

/-- The check of a field of an object that spells an opcode fails for a number that is too large. -/
theorem SpelledBy.check {o : Opcode} {cs : List Char} (h : o.SpelledBy members)
    (hid : o.id < UInt64.size) (hoperands : o.operands < UInt64.size) {name : String} {d : Draft}
    (hmem : (some name, d) ∈ members) (htext : d.HasText cs) {check : Reader Unit}
    (hcheck : (name, check) ∈ record.fields) :
    check d = checked (o.fault? name) := by
  have hname : name ∈ record.fields.map Prod.fst := List.mem_map.mpr ⟨_, hcheck, rfl⟩
  have heq {other : Draft} (hother : (some name, other) ∈ members) : d = other :=
    h.eq_of_mem hname hmem hother
  have hfields : record.fields =
      [("opcode", Record.check .text), ("id", Record.check .lenientNatural),
       ("nop", Record.check .lenientNatural), ("elementwise", Record.check .lenientBool),
       ("system_opcode", Record.check .lenientBool), ("types", Record.check rowsReader)] := rfl
  rw [hfields] at hcheck
  simp only [List.mem_cons, List.not_mem_nil, or_false, Prod.mk.injEq] at hcheck
  rcases hcheck with ⟨rfl, rfl⟩ | ⟨rfl, rfl⟩ | ⟨rfl, rfl⟩ | ⟨rfl, rfl⟩ | ⟨rfl, rfl⟩ | ⟨rfl, rfl⟩
  · rw [heq h.name]
    rfl
  · obtain ⟨_, hgiven, hspells⟩ := h.id
    rw [heq hgiven]
    exact check_of_spellsNatural hspells hid
  · obtain ⟨_, hgiven, hspells⟩ := h.operands
    rw [heq hgiven]
    exact check_of_spellsNatural hspells hoperands
  · obtain ⟨_, hgiven, hspells⟩ := h.elementwise
    rw [← heq hgiven] at hspells
    rw [Record.check, (Reader.lenientBool_eq_ok_iff htext).mpr hspells]
    rfl
  · rcases h.isSystem with ⟨_, hgiven, hspells⟩ | ⟨hnone, -⟩
    · rw [← heq hgiven] at hspells
      rw [Record.check, (Reader.lenientBool_eq_ok_iff htext).mpr hspells]
      rfl
    · exact absurd hmem (hnone d)
  · rcases h.rows with hgiven | ⟨hnone, -⟩
    · rw [Record.check, rowsReader_eq_ok_iff.mpr (heq hgiven)]
      rfl
    · exact absurd hmem (hnone d)

/-- The first number that is too large is reported. -/
theorem readMembers_of_firstTooLarge? (htexts : HaveTexts members) {o : Opcode}
    (h : o.SpelledBy members) (hid : o.id < UInt64.size) (hoperands : o.operands < UInt64.size)
    {n : Nat} (hlarge : o.firstTooLarge? members = some n) :
    record.readMembers members true = .error (.outOfRange n) := by
  have hchecks : ∀ value ∈ known record.fields members, ∀ check,
      record.fields.lookup value.1 = some check →
        check value.2 = checked (o.fault? value.1) := by
    intro value hvalue check hcheck
    have hmem := (mem_known_iff.mp hvalue).1
    obtain ⟨cs, htext⟩ := htexts _ hmem
    exact h.check hid hoperands hmem htext ((lookup_eq_some_iff_mem (by decide)).mp hcheck)
  have hfault : (memberNames members).findSome? o.fault? = some (.outOfRange n) := by
    rw [firstTooLarge?] at hlarge
    have hmap := congrArg (Option.map ReadError.outOfRange) hlarge
    rwa [List.map_findSome?] at hmap
  have hother : ∀ name ∉ fieldNames, o.fault? name = none := by
    intro name hname
    rw [fault?, tooLarge?_eq_none, Option.map_none] <;> rintro rfl <;> exact hname (by decide)
  have hcollect := collect_of_checks o.fault? h.named (htexts.othersAreWhole _)
    (nodup_known_iff.mpr h.once) hchecks [] fun _ _ ↦ List.not_mem_nil
  rw [findSome?_known hother, hfault] at hcollect
  rw [readMembers, hcollect]
  rfl

/-! ## Texts -/

theorem readText_of_object {text : String}
    (htext : (Draft.object members true).HasText text.toList) :
    record.read.readText text = record.readMembers members true := by
  rw [Reader.readText, Document.read_of_hasText htext, Record.read]
  cases record.readMembers members true <;> rfl

/-- A text of an object is read as an opcode exactly if the object spells this opcode and the
numbers have 32 bits. If it spells an opcode of which a number has more, up to 64 bits, the first
such number is reported to be out of range. -/
theorem readText_spelledBy {members : List (Option String × Draft)} {text : String}
    (htext : (Draft.object members true).HasText text.toList) (o : Opcode) :
    (record.read.readText text = .ok o ↔ o.SpelledBy members ∧ o.Fits) ∧
    (o.SpelledBy members → o.id < UInt64.size → o.operands < UInt64.size → ¬ o.Fits →
      ∃ n, o.firstTooLarge? members = some n ∧
        record.read.readText text = .error (.outOfRange n) ∧
        (ReadError.outOfRange n).message? = some s!"{n} is out of range") := by
  have htexts : HaveTexts members := htext.exists_of_mem_object
  rw [readText_of_object htext]
  refine ⟨readMembers_eq_ok_iff_spelledBy htexts, fun h hid hoperands hfits ↦ ?_⟩
  rw [← firstTooLarge?_eq_none_iff h] at hfits
  obtain ⟨n, hn⟩ := Option.ne_none_iff_exists'.mp hfits
  exact ⟨n, hn, readMembers_of_firstTooLarge? htexts h hid hoperands hn, rfl⟩

/-! ## An edited object -/

def editedOpcode (id : Nat) : Opcode := ⟨"BH_ADD", id, 3, true, false, []⟩

/-- The members of an edited object, each with the texts of its name and its value. The name `doc`
is none of the fields. -/
def editedMembers (id : Nat) : List ((Option String × Draft) × List Char × List Char) :=
  [((some "nop", .string (some "\u3000+003\t")), escape "nop" ++ [' '], escape "\u3000+003\t"),
   ((some "doc", .array [] true), '\n' :: escape "doc", ['[', ']']),
   ((some "opcode", .string (some "BH_ADD")), escape "opcode", escape "BH_ADD"),
   ((some "elementwise", .number (.ofInt (-2))), escape "elementwise", ['-', '2']),
   ((some "id", .number (.ofNat id)), escape "id", Nat.toDigits 10 id)]

def editedText (id : Nat) : String :=
  String.ofList ('\x7b' :: ([','].intercalate
    ((editedMembers id).map fun member ↦ member.2.1 ++ ':' :: member.2.2) ++ ([] ++ ['\x7d'])))

theorem hasText_editedText (id : Nat) :
    (Draft.object ((editedMembers id).map Prod.fst) true).HasText (editedText id).toList := by
  have hstring (s : String) : (Draft.string (some s)).HasText (escape s) :=
    .string (stringText_escape s)
  have hspaced : (Draft.string (some "nop")).HasText (escape "nop" ++ [' ']) :=
    (hstring "nop").padded allGaps_nil (List.forall_mem_singleton.mpr rfl)
  have hfed : (Draft.string (some "doc")).HasText (['\n'] ++ escape "doc") :=
    (hstring "doc").after_gap (List.forall_mem_singleton.mpr rfl)
  have hitems : ∀ item ∈ ([] : List (Draft × List Char)), item.1.HasText item.2 := nofun
  have hdoc : (Draft.array [] true).HasText ['[', ']'] := .array hitems allGaps_nil
  have hminus : NumeralText (.ofInt (-2)) ['-', '2'] :=
    ⟨areDigits_toDigits 2, nofun, [], [], .absent, .absent, rfl⟩
  rw [editedText, String.toList_ofList]
  apply Draft.HasText.object _ _ allGaps_nil
  · simp only [editedMembers, List.forall_mem_cons]
    exact ⟨hspaced, hfed, hstring _, hstring _, hstring _, nofun⟩
  · simp only [editedMembers, List.forall_mem_cons]
    exact ⟨hstring _, hdoc, hstring _, .number hminus, .number (numeralText_ofNat id), nofun⟩

theorem spelledBy_editedMembers (id : Nat) :
    (editedOpcode id).SpelledBy ((editedMembers id).map Prod.fst) where
  named := by simp [editedMembers]
  once := by simp [editedMembers, memberNames, fieldNames]
  name := by simp [editedMembers, editedOpcode]
  id := ⟨.number (.ofNat id), by simp [editedMembers], .number⟩
  operands := by
    refine ⟨.string (some "\u3000+003\t"), by simp [editedMembers], ?_⟩
    have htext : String.ofList (['\u3000'] ++ (Text.unsignedText true 2 3 ++ ['\t'])) =
        "\u3000+003\t" := by decide +kernel
    rw [← htext]
    exact .string true 2 (List.forall_mem_singleton.mpr rfl) (List.forall_mem_singleton.mpr rfl)
  elementwise := ⟨.number (.ofInt (-2)), by simp [editedMembers],
    .number (by decide) (by decide) (by simp [editedOpcode])⟩
  isSystem := .inr ⟨by simp [editedMembers], rfl⟩
  rows := .inr ⟨by simp [editedMembers], rfl⟩

theorem readText_spelledBy_editedText :
    editedText 5 = "\x7b\"nop\" :\"\u3000+003\\t\",\n\"doc\":[],\"opcode\":\"BH_ADD\"," ++
      "\"elementwise\":-2,\"id\":5\x7d" ∧
    record.read.readText (editedText 5) = .ok (editedOpcode 5) ∧
    record.read.readText (editedText 4294967296) = .error (.outOfRange 4294967296) := by
  obtain ⟨hread, -⟩ := readText_spelledBy (hasText_editedText 5) (editedOpcode 5)
  obtain ⟨-, hlarge⟩ :=
    readText_spelledBy (hasText_editedText 4294967296) (editedOpcode 4294967296)
  have hfits : (editedOpcode 5).Fits := by unfold Fits; decide
  have hwide : ¬ (editedOpcode 4294967296).Fits := by unfold Fits; decide
  obtain ⟨n, hn, herror, -⟩ := hlarge (spelledBy_editedMembers _) (by decide) (by decide) hwide
  have hfirst : (editedOpcode 4294967296).firstTooLarge?
      ((editedMembers 4294967296).map Prod.fst) = some 4294967296 := by
    decide +kernel
  obtain rfl : 4294967296 = n := Option.some.inj (hfirst.symm.trans hn)
  exact ⟨by decide +kernel, hread.mpr ⟨spelledBy_editedMembers 5, hfits⟩, herror⟩

end ExportTable.Opcode
