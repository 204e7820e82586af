import ExportTable.Info.Json
import ExportTable.Interface.Json
import ExportTable.Proofs.Json.Readers
import ExportTable.Proofs.Json.Records
import ExportTable.Proofs.NameMap

/-!
# Records read back from their texts

Every record whose numbers have their widths is read back from its compact text as it was, and the
info artifact from its file. Strings may hold any characters, lists may have any lengths, and a map
may have any names.
-/

namespace ExportTable

open Json Record

/-! ## Numbers with their widths -/

/-- The index has 64 bits. -/
def Slot.Fits (slot : Slot) : Prop := slot.index < UInt64.size

def Interface.Fits (interface : Interface) : Prop := ∀ slot ∈ interface.slots, slot.Fits

/-- The numbers have 32 bits. -/
def Opcode.Fits (o : Opcode) : Prop := o.id < UInt32.size ∧ o.operands < UInt32.size

/-- The numbers have 32 bits. -/
def Operation.Fits (o : Operation) : Prop := o.id < UInt32.size ∧ o.operands < UInt32.size

def Info.Fits (info : Info) : Prop := ∀ binding ∈ info.operations.bindings, binding.2.Fits

/-! ## Signatures and interfaces -/

theorem Signature.reads_members (f : Signature) : record.Reads (.ofMembers f.members) f :=
  (((reads_field rfl (Reader.text_draft f.returnType)).map Signature.mk).seq
    (reads_field rfl (Reader.text_draft f.name))).seq
    (reads_field rfl (Reader.text_draft f.parameters))

theorem Signature.read_toJson (f : Signature) : record.read f.toJson.draft = .ok f :=
  read_object rfl (by decide) f.reads_members

namespace Slot

/-- Members that can be kept, none of them the index, are left for later as they are. -/
theorem splitMembers_of_keepable {depth : Nat} {members : List (Option String × Draft)}
    (h : ∀ member ∈ members, member.1 ≠ some "index" ∧ member.1.isSome ∧ member.2.isKeepable depth)
    (index : Option Nat) : splitMembers depth index members = .ok (index, members) := by
  induction members with
  | nil => rfl
  | cons member rest ih =>
    obtain ⟨⟨hindex, hkeep⟩, hrest⟩ := List.forall_mem_cons.mp h
    rw [splitMembers, if_neg hindex, if_pos hkeep, ih hrest]
    rfl

/-- The members of a signature as they are kept. -/
def keptMembers (f : Signature) : List (Option String × Draft) :=
  f.members.map fun member ↦ (some member.1, member.2.draft)

theorem isKeepable_string (depth : Nat) (s : String) : (Value.string s).draft.isKeepable depth := by
  rw [Value.draft, Draft.isKeepable]
  rfl

theorem splitMembers_keptMembers (depth : Nat) (index : Option Nat) (f : Signature) :
    splitMembers depth index (keptMembers f) = .ok (index, keptMembers f) := by
  apply splitMembers_of_keepable
  simp [keptMembers, Signature.members, isKeepable_string]

theorem readMembers_keptMembers (f : Signature) :
    Signature.record.readMembers (keptMembers f) true = .ok f :=
  readMembers_of_reads rfl (by decide) f.reads_members

theorem read_toJson {slot : Slot} (h : slot.Fits) (depth : Nat) :
    read depth slot.toJson.draft = .ok slot := by
  have hsplit : splitMembers depth none
      ((some "index", (Value.number slot.index).draft) :: keptMembers slot.signature) =
        .ok (some slot.index, keptMembers slot.signature) := by
    rw [splitMembers, if_pos rfl, if_neg (by decide), Reader.natural_draft h, ok_bind,
      splitMembers_keptMembers]
  rw [toJson, Value.draft, List.map_cons, ← keptMembers, read, hsplit, ok_bind]
  dsimp only
  rw [if_neg (by decide), readMembers_keptMembers]
  rfl

end Slot

theorem Interface.Names.read_toJson (names : Names) :
    Names.record.read names.toJson.draft = .ok names := by
  have hname (field : NameField) :
      (fieldOr field.label (({} : Names).get field) Reader.text).Reads
        (.ofMembers (NameField.all.map fun field ↦ (field.label, .string (names.get field))))
        (names.get field) :=
    reads_fieldOr (by cases field <;> rfl) (Reader.text_draft (names.get field))
  apply read_object rfl (by decide)
  exact
    (((((((((hname .exportPrefix).map Names.mk).seq (hname .guard)).seq (hname .moduleFlag)).seq
      (hname .noImportFlag)).seq (hname .tableName)).seq (hname .initFunction)).seq
      (hname .importFunction)).seq (hname .capsuleKey)).seq (hname .lookupFunction)

theorem Interface.read_toJson {interface : Interface} (h : interface.Fits) :
    record.read interface.toJson.draft = .ok interface := by
  have hslots := Reader.list_draft fun slot hslot ↦ Slot.read_toJson (h slot hslot) slotDepth
  apply read_object rfl (by decide)
  exact (((reads_field rfl interface.names.read_toJson).map Interface.mk).seq
    (reads_field rfl hslots)).seq
    (reads_fieldIfNamed rfl (Reader.option_text_draft interface.doc))

/-! ## Opcodes and element types -/

theorem read_rowsToJson (rows : List (List String)) :
    rowsReader (rowsToJson rows).draft = .ok rows :=
  Reader.list_draft fun _ _ ↦ Reader.list_draft fun s _ ↦ Reader.text_draft s

theorem Opcode.read_toJson {o : Opcode} (h : o.Fits) : record.read o.toJson.draft = .ok o := by
  apply read_object rfl (by decide)
  exact
    ((((((reads_field rfl (Reader.text_draft o.name)).map Opcode.mk).seq
      (reads_field rfl (Reader.lenientNatural_draft h.1))).seq
      (reads_field rfl (Reader.lenientNatural_draft h.2))).seq
      (reads_field rfl (Reader.lenientBool_draft o.elementwise))).seq
      (reads_fieldOr rfl (Reader.lenientBool_draft o.isSystem))).seq
      (reads_fieldOr rfl (read_rowsToJson o.rows))

theorem ElementType.read_toJson (t : ElementType) : record.read t.toJson.draft = .ok t := by
  apply read_object rfl (by decide)
  exact ((reads_field rfl (Reader.text_draft t.tag)).map ElementType.mk).seq
    (reads_field rfl (Reader.text_draft t.native))

/-! ## The info artifact -/

theorem Operation.read_toJson {o : Operation} (h : o.Fits) :
    record.read o.toJson.draft = .ok o := by
  apply read_object rfl (by decide)
  exact
    (((((reads_field rfl (Reader.text_draft o.name)).map Operation.mk).seq
      (reads_field rfl (Reader.natural_draft h.1))).seq
      (reads_field rfl (Reader.natural_draft h.2))).seq
      (reads_field rfl (Reader.bool_draft o.elementwise))).seq
      (reads_field rfl (read_rowsToJson o.rows))

theorem bindingsReader_draft {read : Reader α} {encode : α → Value} {bindings : List (String × α)}
    (h : ∀ binding ∈ bindings, read (encode binding.2).draft = .ok binding.2) :
    bindingsReader read (bindings.map fun binding ↦ (some binding.1, (encode binding.2).draft)) =
      .ok bindings := by
  induction bindings with
  | nil => rfl
  | cons binding rest ih =>
    obtain ⟨hbinding, hrest⟩ := List.forall_mem_cons.mp h
    rw [List.map_cons, bindingsReader, hbinding, ok_bind, ih hrest]
    rfl

theorem NameMap.read_toJson {read : Reader α} {encode : α → Value} {m : NameMap α}
    (h : ∀ binding ∈ m.bindings, read (encode binding.2).draft = .ok binding.2) :
    NameMap.reader read (m.toJson encode).draft = .ok m := by
  have hbindings := bindingsReader_draft h
  rw [NameMap.toJson, Value.draft, List.map_map, NameMap.reader, Function.comp_def, hbindings,
    ok_bind, if_pos rfl, ofList_bindings]

theorem Info.read_toJson {info : Info} (h : info.Fits) :
    record.read info.toJson.draft = .ok info := by
  have hoperations := NameMap.read_toJson fun binding hbinding ↦
    Operation.read_toJson (h binding hbinding)
  apply read_object rfl (by decide)
  exact (((reads_field rfl (Reader.text_draft info.version)).map Info.mk).seq
    (reads_field rfl hoperations)).seq
    (reads_field rfl (Reader.list_draft fun s _ ↦ Reader.text_draft s))

theorem InfoFormat.read_toJson (format : InfoFormat) : read format.toJson.draft = .ok format := by
  cases format <;> rw [toJson, Value.draft] <;> rfl

/-! ## Texts -/

theorem Json.Reader.readText_compactText {read : Reader α} {v : Value} {a : α}
    (h : read v.draft = .ok a) : read.readText v.compactText = .ok a :=
  readText_of_read (Document.read_compactText v) h

/-- Every record whose numbers have their widths is read back from its compact text. A slot stands
in no other container. -/
theorem readText_compactText_toJson :
    (∀ f : Signature, Signature.record.read.readText f.toJson.compactText = .ok f) ∧
    (∀ slot : Slot, slot.Fits →
      Reader.readText (Slot.read 1) slot.toJson.compactText = .ok slot) ∧
    (∀ names : Interface.Names,
      Interface.Names.record.read.readText names.toJson.compactText = .ok names) ∧
    (∀ interface : Interface, interface.Fits →
      Interface.record.read.readText interface.toJson.compactText = .ok interface) ∧
    (∀ o : Opcode, o.Fits → Opcode.record.read.readText o.toJson.compactText = .ok o) ∧
    (∀ t : ElementType, ElementType.record.read.readText t.toJson.compactText = .ok t) ∧
    (∀ o : Operation, o.Fits → Operation.record.read.readText o.toJson.compactText = .ok o) ∧
    (∀ info : Info, info.Fits → Info.record.read.readText info.toJson.compactText = .ok info) ∧
    ∀ format : InfoFormat,
      Reader.readText InfoFormat.read format.toJson.compactText = .ok format := by
  refine ⟨fun f ↦ ?_, fun slot h ↦ ?_, fun names ↦ ?_, fun interface h ↦ ?_, fun o h ↦ ?_,
    fun t ↦ ?_, fun o h ↦ ?_, fun info h ↦ ?_, fun format ↦ ?_⟩ <;>
    apply Reader.readText_compactText
  · exact f.read_toJson
  · exact Slot.read_toJson h 1
  · exact names.read_toJson
  · exact Interface.read_toJson h
  · exact Opcode.read_toJson h
  · exact t.read_toJson
  · exact Operation.read_toJson h
  · exact Info.read_toJson h
  · exact format.read_toJson

/-- Strings that look like the text around them, and characters that are escaped in several ways. -/
def quotedSignature : Signature := ⟨"\",\"name\":\"", "\\\x00\n\x1f", "(\x7f é 😀)"⟩

def widestSlot : Slot := ⟨18446744073709551615, quotedSignature⟩

def widestOpcode : Opcode := ⟨"BH_\"", 4294967295, 0, true, false, [["\t"], [], ["", "]"]]⟩

theorem readText_compactText_toJson_widest :
    widestSlot.Fits ∧ widestOpcode.Fits ∧
      Reader.readText (Slot.read 1) widestSlot.toJson.compactText = .ok widestSlot ∧
      Interface.record.read.readText
        (Interface.toJson ⟨{}, [widestSlot, widestSlot], none⟩).compactText =
          .ok ⟨{}, [widestSlot, widestSlot], none⟩ ∧
      Opcode.record.read.readText widestOpcode.toJson.compactText = .ok widestOpcode := by
  have hslot : widestSlot.Fits := by unfold Slot.Fits; decide
  have hopcode : widestOpcode.Fits := by unfold Opcode.Fits; decide
  have hinterface : Interface.Fits ⟨{}, [widestSlot, widestSlot], none⟩ := by
    intro slot hmem
    rw [List.eq_of_mem_replicate (n := 2) hmem]
    exact hslot
  obtain ⟨_, hreadSlot, _, hreadInterface, hreadOpcode, _⟩ := readText_compactText_toJson
  exact ⟨hslot, hopcode, hreadSlot _ hslot, hreadInterface _ hinterface, hreadOpcode _ hopcode⟩

/-- The info artifact is read back from its file. -/
theorem Info.readText_jsonText {info : Info} (h : info.Fits) :
    record.read.readText info.jsonText = .ok info :=
  Reader.readText_of_read (Document.read_prettyText info.toJson) (read_toJson h)

/-- Names and types that look like the text around them, an operation without rows, and a row
without types. -/
def Info.quotedInfo : Info where
  version := "1\"\\\n'\x00é😀"
  operations :=
    ⟨[("", ⟨"\"\x7d", 4294967295, 0, true, []⟩),
      ("\",\n", ⟨"add", 1, 3, false, [[], ["\t", "]"]]⟩)],
      by unfold KeysAscend; decide⟩
  types := ["", "\"],", "\x1f"]

theorem Info.readText_jsonText_quotedInfo :
    quotedInfo.Fits ∧ record.read.readText quotedInfo.jsonText = .ok quotedInfo := by
  have hfits : quotedInfo.Fits := by
    unfold Info.Fits Operation.Fits
    decide
  exact ⟨hfits, readText_jsonText hfits⟩

end ExportTable
