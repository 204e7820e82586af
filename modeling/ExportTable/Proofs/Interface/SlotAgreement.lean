import ExportTable.Proofs.Capsule.Filling
import ExportTable.Proofs.Capsule.WriteOnce
import ExportTable.Proofs.CSource.Words
import ExportTable.Proofs.Interface.DefinedMacros
import ExportTable.Proofs.Interface.HeaderTokens

/-!
# Provider and consumers agree on every slot

The initializer of a valid interface writes the address of every function into the slot of the
function, and no other slot: the assignments are read from its text, and the places that they name
from the macros of the header. The finished table has as many entries as the count macro says, each
function stands at the number that its index macro stands for, where its call macro reads the table,
and once the table is published every consumer gets it.
-/

namespace ExportTable.Interface

open Capsule CSource Extraction

variable {interface : Interface}

/-! ## What the initializer writes -/

/-- The assignments of the initializer: the macro of the index, and the symbol. -/
def assignments (interface : Interface) : List (String × String) :=
  interface.slots.map fun slot ↦
    (slot.indexMacro interface.names.exportPrefix, slot.symbol interface.names.exportPrefix)

/-- A function that makes the assignments to the places of its argument. -/
def initializerText (function : String) (assignments : List (String × String)) : String :=
  s!"static void {function}(void *c_api_struct[]) \x7b\n" ++
    String.join (assignments.map fun (indexMacro, symbol) ↦
      s!"    c_api_struct[{indexMacro}] = (void *){symbol};\n") ++ "\x7d\n"

theorem initializer_eq (interface : Interface) :
    interface.initializer =
      initializerText interface.names.initFunction interface.assignments := by
  have hlines : interface.slots.map (slotAssignment interface.names.exportPrefix) =
      interface.assignments.map fun (indexMacro, symbol) ↦
        s!"    c_api_struct[{indexMacro}] = (void *){symbol};\n" := by
    rw [assignments, List.map_map]
    rfl
  delta initializer initializerText
  rw [hlines]

/-- What words assign, up to the closing brace: the macro of an index, and a symbol. -/
def readAssignments? : List Word → Option (List (String × String))
  | [(.punctuation, "\x7d")] => some []
  | (.identifier, "c_api_struct") :: (.punctuation, "[") :: (.identifier, indexMacro) ::
      (.punctuation, "]") :: (.punctuation, "=") :: (.punctuation, "(") :: (.identifier, "void") ::
      (.punctuation, "*") :: (.punctuation, ")") :: (.identifier, symbol) ::
      (.punctuation, ";") :: rest =>
    (readAssignments? rest).map ((indexMacro, symbol) :: ·)
  | _ => none

/-- The assignments in the body of a function. -/
def assignmentsIn? (source : String) : Option (List (String × String)) := do
  let words ← words? source
  readAssignments? (words.dropWhile (· ≠ .mark '{')).tail

/-- The writes that an initializer makes, if all its indices are macros that stand for numbers. -/
def initializerWrites? (macros initializer : String) (addressOf : String → Address) :
    Option (List (Nat × Address)) := do
  let assignments ← assignmentsIn? initializer
  assignments.mapM fun (indexMacro, symbol) ↦
    (macroNumber? macros indexMacro).map (·, addressOf symbol)

theorem readAssignments?_append (exportPrefix : String) (slot : Slot) (rest : List Word) :
    readAssignments? (assignmentWords exportPrefix slot ++ rest) =
      (readAssignments? rest).map
        ((slot.indexMacro exportPrefix, slot.symbol exportPrefix) :: ·) := rfl

theorem readAssignments?_flatMap (exportPrefix : String) (slots : List Slot) :
    readAssignments? (slots.flatMap (assignmentWords exportPrefix) ++ [.mark '\x7d']) =
      some (slots.map fun slot ↦
        (slot.indexMacro exportPrefix, slot.symbol exportPrefix)) := by
  induction slots with
  | nil => rfl
  | cons slot slots ih =>
    rw [List.flatMap_cons, List.append_assoc, readAssignments?_append, ih]
    rfl

/-- The words of the head have one brace, and it is the last of them. -/
theorem tail_dropWhile_initializerHead (names : Names) (rest : List Word) :
    ((initializerHead names ++ rest).dropWhile (· ≠ .mark '{')).tail = rest := by
  rfl

theorem assignmentsIn?_initializer (hvalid : interface.Valid) (hfits : interface.FitsHeader) :
    assignmentsIn? interface.initializer = some interface.assignments := by
  have hsymbols : ∀ slot ∈ interface.slots,
      isIdentifier (slot.symbol interface.names.exportPrefix) :=
    fun slot hslot ↦ (hfits slot hslot).isIdentifier
  obtain ⟨tokens, htokens, hwords⟩ :=
    tokenize_of_readsAs (readsAs_initializer hvalid.isIdentifier hsymbols)
  rw [assignmentsIn?, words?_of_tokenize htokens, hwords, Option.bind_eq_bind, Option.bind_some,
    initializerWords, List.append_assoc, tail_dropWhile_initializerHead]
  exact readAssignments?_flatMap _ _

/-! ## What consumers read -/

/-- The index at which the text of a call macro reads the table. -/
def calledIndex? (value : String) : Option String :=
  match value.toList.dropWhile (· ≠ '[') with
  | [] => none
  | _ :: rest => some (String.ofList (rest.takeWhile (· ≠ ']')))

/-- The number of the place at which the call macro of a symbol reads the table. -/
def calledNumber? (macros calls symbol : String) : Option Nat := do
  let value ← (definedIn calls).lookup symbol
  let indexMacro ← calledIndex? value
  macroNumber? macros indexMacro

theorem definedIn_callMacros (hvalid : interface.Valid) (hfits : interface.FitsHeader) :
    definedIn interface.callMacros = interface.callDefinitions := by
  have hsymbols : ∀ slot ∈ interface.slots,
      isIdentifier (slot.symbol interface.names.exportPrefix) :=
    fun slot hslot ↦ (hfits slot hslot).isIdentifier
  rw [callMacros, join_callMacro_eq]
  apply definedIn_definitionText (isDirective_callDefinition hvalid.isIdentifier hsymbols)
  intro definition hmem
  obtain ⟨slot, hslot, rfl⟩ := List.mem_map.mp hmem
  exact not_mem_of_isIdentifier (hsymbols slot hslot) (by decide)

/-- No bracket stands before the one of the index, because all names are identifiers. -/
theorem calledIndex?_append {front index : String} (hfront : '[' ∉ front.toList)
    (hindex : ']' ∉ index.toList) : calledIndex? (front ++ "[" ++ index ++ "])") = some index := by
  have htext : (front ++ "[" ++ index ++ "])").toList =
      front.toList ++ '[' :: (index.toList ++ [']', ')']) := by
    simp
  have hbefore : ∀ c ∈ front.toList, decide (c ≠ '[') :=
    fun c hc ↦ decide_eq_true (ne_of_mem_of_not_mem hc hfront)
  have hinside : ∀ c ∈ index.toList, decide (c ≠ ']') :=
    fun c hc ↦ decide_eq_true (ne_of_mem_of_not_mem hc hindex)
  have hname : (index.toList ++ [']', ')']).takeWhile (· ≠ ']') = index.toList := by
    rw [List.takeWhile_append_of_pos hinside]
    simp
  rw [calledIndex?, htext, List.dropWhile_append_of_pos hbefore,
    List.dropWhile_cons_of_neg (by decide)]
  dsimp only
  rw [hname, String.ofList_toList]

theorem callDefinition_mem {slot : Slot} (hslot : slot ∈ interface.slots) :
    let names := interface.names
    (slot.symbol names.exportPrefix, "(*(" ++ slot.returnMacro names.exportPrefix ++ " (*)" ++
        slot.parametersMacro names.exportPrefix ++ ") " ++ names.tableName ++ "[" ++
        slot.indexMacro names.exportPrefix ++ "])") ∈ interface.callDefinitions := by
  refine List.mem_map.mpr ⟨slot, hslot, ?_⟩
  simp only [toString, String.append_assoc]

theorem calledNumber?_symbol (hvalid : interface.Valid) (hfits : interface.FitsHeader) {slot : Slot}
    (hslot : slot ∈ interface.slots) :
    calledNumber? interface.sharedMacros interface.callMacros
      (slot.symbol interface.names.exportPrefix) = some slot.index := by
  have hsymbol := (hfits slot hslot).isIdentifier
  have hnames : (interface.callDefinitions.map Prod.fst).Nodup := by
    rw [map_fst_callDefinitions, nodup_map_symbol]
    exact hvalid.nodup_functionNames
  have hlookup := (lookup_eq_some_iff_mem hnames).mpr (callDefinition_mem hslot)
  have hreturn : '[' ∉ (slot.returnMacro interface.names.exportPrefix).toList :=
    not_mem_of_isIdentifier (isIdentifier_returnMacro hsymbol) (by decide)
  have hparameters : '[' ∉ (slot.parametersMacro interface.names.exportPrefix).toList :=
    not_mem_of_isIdentifier (isIdentifier_parametersMacro hsymbol) (by decide)
  have htable : '[' ∉ interface.names.tableName.toList :=
    not_mem_of_isIdentifier (hvalid.isIdentifier .tableName (by decide)) (by decide)
  have hindex : ']' ∉ (slot.indexMacro interface.names.exportPrefix).toList :=
    not_mem_of_isIdentifier (isIdentifier_indexMacro hsymbol) (by decide)
  rw [calledNumber?, definedIn_callMacros hvalid hfits, hlookup, Option.bind_eq_bind,
    Option.bind_some, calledIndex?_append (by simp [hreturn, hparameters, htable]) hindex,
    Option.bind_some, macroNumber?_indexMacro hvalid hfits hslot]

/-! ## The table -/

/-- The address of every function into its slot. -/
def slotWrites (interface : Interface) (addressOf : String → Address) : List (Nat × Address) :=
  interface.slots.map fun slot ↦
    (slot.index, addressOf (slot.symbol interface.names.exportPrefix))

theorem initializerWrites?_eq (hvalid : interface.Valid) (hfits : interface.FitsHeader)
    (addressOf : String → Address) :
    initializerWrites? interface.sharedMacros interface.initializer addressOf =
      some (interface.slotWrites addressOf) := by
  rw [initializerWrites?, assignmentsIn?_initializer hvalid hfits, Option.bind_eq_bind,
    Option.bind_some, assignments, List.mapM_map]
  apply mapM_eq_some_map
  intro slot hslot
  dsimp only [Function.comp_apply]
  rw [macroNumber?_indexMacro hvalid hfits hslot, Option.map_some]

/-- The addresses in the order of the slots. -/
def addresses (interface : Interface) (addressOf : String → Address) : List Address :=
  interface.slots.map fun slot ↦ addressOf (slot.symbol interface.names.exportPrefix)

theorem length_addresses (interface : Interface) (addressOf : String → Address) :
    (interface.addresses addressOf).length = interface.size := List.length_map ..

theorem slotWrites_eq_zip (hvalid : interface.Valid) (addressOf : String → Address) :
    interface.slotWrites addressOf =
      (List.range interface.size).zip (interface.addresses addressOf) := by
  rw [← hvalid.map_index, slotWrites, addresses, List.zip_map']

theorem map_fst_slotWrites (hvalid : interface.Valid) (addressOf : String → Address) :
    (interface.slotWrites addressOf).map Prod.fst = List.range interface.size := by
  rw [← hvalid.map_index, slotWrites, List.map_map]
  rfl

theorem writeAll_slotWrites (hvalid : interface.Valid) {addressOf : String → Address}
    {order : List (Nat × Address)} (horder : order.Perm (interface.slotWrites addressOf)) :
    (UnfinishedTable.ofSize interface.size).writeAll order =
      ⟨interface.addresses addressOf⟩ := by
  rw [slotWrites_eq_zip hvalid, ← length_addresses interface addressOf] at horder
  calc
    (UnfinishedTable.ofSize interface.size).writeAll order =
        (UnfinishedTable.ofSize (interface.addresses addressOf).length).writeAll order := by
      rw [length_addresses]
    _ = ⟨interface.addresses addressOf⟩ := UnfinishedTable.writeAll_ofSize horder

theorem setAll_slotWrites (hvalid : interface.Valid) {addressOf : String → Address}
    (haddresses : ∀ address ∈ interface.addresses addressOf, address ≠ 0)
    {order : List (Nat × Address)} (horder : order.Perm (interface.slotWrites addressOf)) :
    (UnfinishedTable.ofSize interface.size).setAll order =
      .ok ⟨interface.addresses addressOf⟩ := by
  have hwrites : ∀ write ∈ order,
      write.1 < (UnfinishedTable.ofSize interface.size).size ∧ write.2 ≠ 0 := by
    intro write hwrite
    have hmem : write ∈ (List.range interface.size).zip (interface.addresses addressOf) := by
      rw [← slotWrites_eq_zip hvalid]
      exact horder.mem_iff.mp hwrite
    obtain ⟨hindex, haddress⟩ := List.of_mem_zip hmem
    refine ⟨?_, haddresses _ haddress⟩
    rw [UnfinishedTable.size, UnfinishedTable.ofSize, List.length_replicate]
    exact List.mem_range.mp hindex
  rw [UnfinishedTable.setAll_eq_ok hwrites, writeAll_slotWrites hvalid horder]

theorem getElem?_addresses (hvalid : interface.Valid) (addressOf : String → Address) {slot : Slot}
    (hslot : slot ∈ interface.slots) :
    (interface.addresses addressOf)[slot.index]? =
      some (addressOf (slot.symbol interface.names.exportPrefix)) := by
  obtain ⟨position, hposition⟩ := List.mem_iff_getElem?.mp hslot
  have hindex : (interface.slots.map Slot.index)[position]? = some slot.index := by
    rw [List.getElem?_map, hposition]
    rfl
  rw [hvalid.map_index, List.getElem?_eq_some_iff] at hindex
  obtain ⟨hbound, hindex⟩ := hindex
  rw [List.getElem_range] at hindex
  calc
    (interface.addresses addressOf)[slot.index]? =
        interface.slots[position]?.map fun slot ↦
          addressOf (slot.symbol interface.names.exportPrefix) := by
      rw [addresses, List.getElem?_map, hindex]
    _ = some (addressOf (slot.symbol interface.names.exportPrefix)) := by
      rw [hposition]
      rfl

/-- The line that gives the index of a function its number. -/
theorem exists_sharedMacros_eq {slot : Slot} (hslot : slot ∈ interface.slots) :
    ∃ before after, interface.sharedMacros = before ++
      define (slot.indexMacro interface.names.exportPrefix) (toString slot.index) ++ after := by
  have hmem : (slot.indexMacro interface.names.exportPrefix, toString slot.index) ∈
      interface.functionDefinitions :=
    List.mem_flatMap.mpr ⟨slot, hslot, List.mem_cons_self⟩
  obtain ⟨front, back, hdefinitions⟩ := List.append_of_mem hmem
  refine ⟨definitionText front, definitionText back ++ "\n" ++ interface.countDefinition, ?_⟩
  rw [sharedMacros, functionMacros_eq, hdefinitions, definitionText_append,
    ← List.singleton_append, definitionText_append, definitionText_singleton]
  simp only [String.append_assoc]

/-- For a valid interface and addresses that are not null, the initializer fills the table with the
address of every function at the number of its index macro, as calls of `set` in any order do, and
from its publication on every consumer gets this table. The writes and the numbers are those that the
texts in the header say, where they are C: the texts of an interface that is made by hand need not
be, but all that is extracted fits. -/
theorem slots_agree {addressOf : String → Address} (hvalid : interface.validate = .ok ())
    (haddresses : ∀ slot ∈ interface.slots,
      addressOf (slot.symbol interface.names.exportPrefix) ≠ 0) :
    (∀ typeDefinitions, ∃ before provider consumer after, interface.header typeDefinitions =
      before ++ interface.sharedMacros ++ provider ++ interface.initializer ++ consumer ++
        interface.callMacros ++ after) ∧
    interface.initializer =
      initializerText interface.names.initFunction interface.assignments ∧
    (∀ slot ∈ interface.slots, ∃ before after, interface.sharedMacros = before ++
      define (slot.indexMacro interface.names.exportPrefix) (toString slot.index) ++ after) ∧
    (interface.FitsHeader →
      initializerWrites? interface.sharedMacros interface.initializer addressOf =
          some (interface.slotWrites addressOf) ∧
        macroNumber? interface.sharedMacros interface.names.countMacro = some interface.size ∧
        ∀ slot ∈ interface.slots,
          macroNumber? interface.sharedMacros
              (slot.indexMacro interface.names.exportPrefix) = some slot.index ∧
            calledNumber? interface.sharedMacros interface.callMacros
              (slot.symbol interface.names.exportPrefix) = some slot.index) ∧
    (interface.slotWrites addressOf).map Prod.fst = List.range interface.size ∧
    ∃ table : Table,
      ((UnfinishedTable.ofSize interface.size).writeAll
        (interface.slotWrites addressOf)).finish = .ok table ∧
      (∀ order, order.Perm (interface.slotWrites addressOf) → ∃ filled,
        (UnfinishedTable.ofSize interface.size).setAll order = .ok filled ∧
          filled.finish = .ok table) ∧
      macroNumber? interface.countDefinition interface.names.countMacro = some table.size ∧
      (∀ slot ∈ interface.slots, table.get? slot.index =
        some (addressOf (slot.symbol interface.names.exportPrefix))) ∧
      ∀ earlier session, session = (Session.run {} earlier).1 →
        session.registry.isPublished interface.names.capsuleKey = false →
        ∃ registry, session.registry.publish interface.names.capsuleKey table = .ok registry ∧
          ∀ unfinished tables later,
            (Session.run { session with registry, unfinished, tables } later).1.Serves
              interface.names.capsuleKey table := by
  have hvalid := validate_eq_ok_iff.mp hvalid
  have hnonzero : ∀ address ∈ interface.addresses addressOf, address ≠ 0 := by
    intro address hmem
    obtain ⟨slot, hslot, rfl⟩ := List.mem_map.mp hmem
    exact haddresses slot hslot
  have hfinish : UnfinishedTable.finish ⟨interface.addresses addressOf⟩ =
      .ok ⟨interface.addresses addressOf⟩ := UnfinishedTable.finish_eq_ok hnonzero
  refine ⟨fun typeDefinitions ↦ ?_, initializer_eq interface,
    fun slot hslot ↦ exists_sharedMacros_eq hslot, fun hfits ↦ ?_,
    map_fst_slotWrites hvalid addressOf, ⟨interface.addresses addressOf⟩, ?_, ?_, ?_, ?_, ?_⟩
  · obtain ⟨before, provider, consumer, after, hheader⟩ :=
      exists_header_eq_sharedMacros interface typeDefinitions
    exact ⟨_, provider, consumer, after, hheader⟩
  · exact ⟨initializerWrites?_eq hvalid hfits addressOf, macroNumber?_countMacro hvalid hfits,
      fun slot hslot ↦ ⟨macroNumber?_indexMacro hvalid hfits hslot,
        calledNumber?_symbol hvalid hfits hslot⟩⟩
  · rw [writeAll_slotWrites hvalid (.refl _), hfinish]
  · intro order horder
    exact ⟨_, setAll_slotWrites hvalid hnonzero horder, hfinish⟩
  · rw [macroNumber?_countDefinition (hvalid.isIdentifier .exportPrefix (by decide)), Table.size,
      length_addresses]
  · exact fun slot hslot ↦ getElem?_addresses hvalid addressOf hslot
  · rintro earlier session rfl hfree
    obtain ⟨registry, hpublish⟩ := Registry.publish_eq_ok hvalid.capsuleKey_ne hfree
    refine ⟨registry, hpublish, fun unfinished tables later ↦ ?_⟩
    apply Session.serves_run hvalid.capsuleKey_ne
    · intro name handle hhandle found hfound
      have hconsistent := Session.consistent_run Session.consistent_initial earlier
      exact Registry.find?_of_publish hpublish (hconsistent name handle hhandle found hfound)
    · rw [Registry.find?_publish hpublish, if_pos rfl]

/-- The parameters of the second function go on over a line feed in a literal. -/
def pairSource : String :=
  "static void BhAPI_flush(void) \x7b \x7d\n" ++
    "static int BhAPI_kind(int n[sizeof(\"x\\\ny\")]) \x7b \x7d\n"

def pairSignatures : List Signature :=
  [⟨"void", "flush", "(void)"⟩, ⟨"int", "kind", "(int n[sizeof(\"x\\\ny\")])"⟩]

def pairInterface : Interface where
  names := {}
  slots := Slot.assign pairSignatures

def pairAddress (symbol : String) : Address := if symbol = "BhAPI_flush" then 16 else 32

theorem fitsHeader_pairInterface : pairInterface.FitsHeader :=
  have hextract : extractSignatures "BhAPI" pairSource = .ok pairSignatures := by decide +kernel
  fitsHeader_of_extractSignatures none hextract

theorem slots_agree_pairInterface :
    pairInterface.validate = .ok () ∧
    (∀ slot ∈ pairInterface.slots,
      pairAddress (slot.symbol pairInterface.names.exportPrefix) ≠ 0) ∧
    pairInterface.FitsHeader ∧
    initializerWrites? pairInterface.sharedMacros pairInterface.initializer pairAddress =
      some [(0, 16), (1, 32)] ∧
    ∃ table : Table,
      ((UnfinishedTable.ofSize 2).writeAll [(0, 16), (1, 32)]).finish = .ok table ∧
      macroNumber? pairInterface.countDefinition "BhAPI_num_of_pointers" = some table.size ∧
      ∃ registry, ({} : Registry).publish "bohrium_api._C_API" table = .ok registry ∧
        ∀ later, (Session.run { registry } later).1.Serves "bohrium_api._C_API" table := by
  have hvalid : pairInterface.validate = .ok () := by decide +kernel
  have haddresses : ∀ slot ∈ pairInterface.slots,
      pairAddress (slot.symbol pairInterface.names.exportPrefix) ≠ 0 := by
    decide +kernel
  have hwrites : pairInterface.slotWrites pairAddress = [(0, 16), (1, 32)] := by decide +kernel
  obtain ⟨-, -, -, hread, -, table, hfinish, -, hcount, -, hpublish⟩ :=
    slots_agree hvalid haddresses
  obtain ⟨hinitializer, -, -⟩ := hread fitsHeader_pairInterface
  rw [hwrites] at hinitializer hfinish
  obtain ⟨registry, hregistry, hserves⟩ := hpublish [] {} rfl rfl
  exact ⟨hvalid, haddresses, fitsHeader_pairInterface, hinitializer, table, hfinish, hcount,
    registry, hregistry, hserves ∅ ∅⟩

end ExportTable.Interface
