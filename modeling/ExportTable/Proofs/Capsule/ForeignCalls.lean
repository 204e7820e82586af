import ExportTable.Proofs.Capsule.Publications
import ExportTable.Proofs.FileStore.Reading

/-!
# Calls from C

A call of `publish` from C succeeds exactly if one pointer spells a key that is free and the other
holds addresses of which none is null. Then the key is bound to the table of these addresses, and
nothing else changes; if the call fails, nothing changes at all. The registry is left as if the
table had been filled slot by slot, finished and published under the key. A call of `acquire` gives
what the registry gives.
-/

namespace ExportTable.Capsule

theorem Registry.publish_eq_ok_iff {registry published : Registry} {key : String} {table : Table} :
    registry.publish key table = .ok published ↔
      key ≠ "" ∧ registry.find? key = none ∧ published = ⟨registry.tables.insert key table⟩ := by
  constructor
  · intro h
    obtain ⟨hkey, hfree⟩ := of_publish h
    rw [publish, if_neg hkey, isPublished, hfree] at h
    exact ⟨hkey, hfree, (Except.ok.inj h).symm⟩
  · rintro ⟨hkey, hfree, rfl⟩
    rw [publish, if_neg hkey, isPublished, hfree]
    rfl

namespace Foreign

/-! ## What pointers stand for -/

/-- The bytes before the first zero byte are those of the key. -/
def Spells (pointer : KeyPointer) (key : String) : Prop :=
  ∃ bytes, pointer = some bytes ∧ bytes.takeWhile (· ≠ 0) = key.toUTF8.data.toList

/-- The first addresses of an array. If none are asked for, the pointer does not matter. -/
def Holds (pointer : TablePointer) (size : Nat) (addresses : List Address) : Prop :=
  addresses.length = size ∧ (size = 0 ∨ ∃ array, pointer = some array ∧ addresses <+: array)

theorem readKey_eq_ok_iff {pointer : KeyPointer} {key : String} :
    readKey pointer = .ok key ↔ Spells pointer key := by
  cases pointer with
  | none => exact iff_of_false nofun nofun
  | some bytes =>
    have hspells : Spells (some bytes) key ↔
        String.fromUTF8? ⟨(bytes.takeWhile (· ≠ 0)).toArray⟩ = some key := by
      rw [FileStore.fromUTF8?_eq_some_iff, Spells, ByteArray.ext_iff, ← Array.toList_inj]
      simp
    rw [hspells, readKey]
    cases String.fromUTF8? ⟨(bytes.takeWhile (· ≠ 0)).toArray⟩ <;> simp

theorem holds_iff {pointer : TablePointer} {size : Nat} {addresses : List Address} :
    Holds pointer size addresses ↔
      readSlots pointer size = .ok addresses ∧ addresses.length = size := by
  rw [Holds, and_comm]
  refine and_congr_left fun hlength ↦ ?_
  by_cases hsize : size = 0
  · have haddresses : addresses = [] := List.length_eq_zero_iff.mp (hlength.trans hsize)
    simp [readSlots, hsize, haddresses]
  · cases pointer with
    | none => simp [readSlots, hsize]
    | some array => simp [readSlots, hsize, List.prefix_iff_eq_take, hlength, eq_comm]

/-- The pointers of a call that can succeed, with what they stand for. -/
structure Publishable (registry : Registry) (pointer : KeyPointer) (slots : TablePointer)
    (size : Nat) (key : String) (addresses : List Address) : Prop where
  spells : Spells pointer key
  key_ne : key ≠ ""
  free : registry.find? key = none
  holds : Holds slots size addresses
  complete : ∀ address ∈ addresses, address ≠ 0

variable {registry published : Registry} {pointer : KeyPointer} {slots : TablePointer}
  {size : Nat} {key : String} {addresses : List Address}

theorem finish_fill_eq_ok_iff {table : Table} :
    (fill size addresses >>= UnfinishedTable.finish) = .ok table ↔
      addresses.length = size ∧ table = ⟨addresses⟩ ∧ table.Complete := by
  rw [bind_eq_ok_iff]
  constructor
  · rintro ⟨filled, hfill, hfinish⟩
    exact eq_of_fill hfill hfinish
  · rintro ⟨rfl, rfl, hcomplete⟩
    refine ⟨⟨addresses⟩, ?_, UnfinishedTable.finish_eq_ok hcomplete⟩
    rw [fill_eq_setAll, UnfinishedTable.setAll_eq_ok_iff]
    refine ⟨fun write hwrite ↦ ⟨?_, ?_⟩, (UnfinishedTable.writeAll_ofSize (.refl _)).symm⟩
    · rw [UnfinishedTable.size, UnfinishedTable.ofSize, List.length_replicate]
      exact fst_lt_of_mem_writes hwrite
    · exact hcomplete _ (List.of_mem_zip hwrite).2

/-- A table is filled slot by slot, finished and published. -/
def publishSlotwise (registry : Registry) (key : String) (size : Nat) (addresses : List Address) :
    Except Error Registry :=
  fill size addresses >>= UnfinishedTable.finish >>= registry.publish key

theorem publishSlotwise_eq_ok_iff :
    publishSlotwise registry key size addresses = .ok published ↔
      addresses.length = size ∧ (∀ address ∈ addresses, address ≠ 0) ∧ key ≠ "" ∧
        registry.find? key = none ∧ published = ⟨registry.tables.insert key ⟨addresses⟩⟩ := by
  rw [publishSlotwise, bind_eq_ok_iff]
  simp only [finish_fill_eq_ok_iff, Registry.publish_eq_ok_iff]
  constructor
  · rintro ⟨table, ⟨hlength, rfl, hcomplete⟩, hpublish⟩
    exact ⟨hlength, hcomplete, hpublish⟩
  · rintro ⟨hlength, hcomplete, hpublish⟩
    exact ⟨⟨addresses⟩, ⟨hlength, rfl, hcomplete⟩, hpublish⟩

theorem publish_eq_slotwise (hkey : Spells pointer key)
    (hslots : readSlots slots size = .ok addresses) :
    publish registry pointer slots size = publishSlotwise registry key size addresses := by
  rw [publish, readKey_eq_ok_iff.mpr hkey, hslots, ok_bind, ok_bind, publishSlotwise, bind_assoc]

theorem publish_eq_ok_iff :
    publish registry pointer slots size = .ok published ↔
      ∃ key addresses, Publishable registry pointer slots size key addresses ∧
        published = ⟨registry.tables.insert key ⟨addresses⟩⟩ := by
  constructor
  · intro h
    obtain ⟨key, hkey, hrest⟩ := bind_eq_ok_iff.mp h
    obtain ⟨addresses, hslots, -⟩ := bind_eq_ok_iff.mp hrest
    have hspells := readKey_eq_ok_iff.mp hkey
    rw [publish_eq_slotwise hspells hslots, publishSlotwise_eq_ok_iff] at h
    obtain ⟨hlength, hcomplete, hne, hfree, hpublished⟩ := h
    exact ⟨key, addresses, ⟨hspells, hne, hfree, holds_iff.mpr ⟨hslots, hlength⟩, hcomplete⟩,
      hpublished⟩
  · rintro ⟨key, addresses, h, hpublished⟩
    obtain ⟨hslots, hlength⟩ := holds_iff.mp h.holds
    rw [publish_eq_slotwise h.spells hslots, publishSlotwise_eq_ok_iff]
    exact ⟨hlength, h.complete, h.key_ne, h.free, hpublished⟩

theorem acquire_eq_ok_iff {table : Table} :
    acquire registry pointer = .ok table ↔
      ∃ key, Spells pointer key ∧ registry.acquire key = .ok table := by
  simp only [acquire, bind_eq_ok_iff, readKey_eq_ok_iff]

end Foreign

namespace Session

variable {session : Session}

/-! ## Slot by slot -/

/-- A call of `set` touches the table it is for and nothing else. -/
theorem step_set (session : Session) (name : String) (index : Nat) (address : Address) :
    (session.step (.set name index address)).1.registry = session.registry ∧
      (session.step (.set name index address)).1.tables = session.tables ∧
      (session.step (.set name index address)).1.unfinished.find? name =
        (session.unfinished.find? name).bind fun table ↦ (table.set index address).toOption := by
  rw [step, set]
  cases hfind : session.unfinished.find? name with
  | none => exact ⟨rfl, rfl, hfind⟩
  | some table =>
    cases hset : table.set index address with
    | ok filled => simp [hset, NameMap.find?_insert, Except.toOption]
    | error e => simp [hset, NameMap.find?_erase, Except.toOption]

def setSteps (name : String) (writes : List (Nat × Address)) : List Step :=
  writes.map fun (index, address) ↦ .set name index address

theorem run_setSteps (session : Session) (name : String) (writes : List (Nat × Address)) :
    (session.run (setSteps name writes)).1.registry = session.registry ∧
      (session.run (setSteps name writes)).1.tables = session.tables ∧
      (session.run (setSteps name writes)).1.unfinished.find? name =
        (session.unfinished.find? name).bind fun table ↦ (table.setAll writes).toOption := by
  induction writes generalizing session with
  | nil => simp [setSteps, run, UnfinishedTable.setAll, Except.toOption, pure, Except.pure]
  | cons first rest ih =>
    obtain ⟨index, address⟩ := first
    obtain ⟨hregistry, htables, hfilled⟩ := step_set session name index address
    obtain ⟨ihregistry, ihtables, ihfilled⟩ := ih (session.step (.set name index address)).1
    refine ⟨ihregistry.trans hregistry, ihtables.trans htables, ihfilled.trans ?_⟩
    rw [hfilled, Option.bind_assoc]
    congr 1
    funext table
    rw [UnfinishedTable.setAll, List.foldlM_cons, toOption_bind]
    rfl

theorem step_finish (session : Session) (name : String) {tableName : String}
    (hnew : session.tables.find? tableName = none) :
    (session.step (.finish name tableName)).1.registry = session.registry ∧
      (session.step (.finish name tableName)).1.tables.find? tableName =
        (session.unfinished.find? name).bind fun table ↦ table.finish.toOption := by
  rw [step, finish]
  cases session.unfinished.find? name with
  | none => exact ⟨rfl, hnew⟩
  | some unfinished =>
    cases hfinish : unfinished.finish with
    | ok table => simp [hfinish, NameMap.find?_insert, Except.toOption]
    | error e => simp [hfinish, hnew, Except.toOption]

theorem registry_step_publish (session : Session) (key tableName : String) :
    (session.step (.publish key tableName)).1.registry =
      ((session.tables.find? tableName).bind fun table ↦
        (session.registry.publish key table).toOption).getD session.registry := by
  rw [step, publish]
  cases session.tables.find? tableName with
  | none => rfl
  | some table =>
    cases hpublish : session.registry.publish key table <;> simp [hpublish, Except.toOption]

/-- The steps that fill a table slot by slot, finish it and publish it. -/
def slotwiseSteps (name tableName key : String) (addresses : List Address) : List Step :=
  .begin name addresses.length :: (setSteps name (Foreign.writes addresses) ++
    [.finish name tableName, .publish key tableName])

theorem registry_run_slotwiseSteps {tableName : String}
    (hnew : session.tables.find? tableName = none) (name key : String) (addresses : List Address) :
    (session.run (slotwiseSteps name tableName key addresses)).1.registry =
      (Foreign.publishSlotwise session.registry key addresses.length addresses).toOption.getD
        session.registry := by
  -- The name may stand for an unfinished table already: the first step replaces it by an empty one.
  let begun := (session.step (.begin name addresses.length)).1
  let filled := (begun.run (setSteps name (Foreign.writes addresses))).1
  let finished := (filled.step (.finish name tableName)).1
  have hrun : (session.run (slotwiseSteps name tableName key addresses)).1 =
      (finished.step (.publish key tableName)).1 :=
    begun.run_append (setSteps name (Foreign.writes addresses)) _
  have hbegun : begun.unfinished.find? name = some (.ofSize addresses.length) :=
    (NameMap.find?_insert _ _ _ _).trans (if_pos rfl)
  obtain ⟨hregistry, htables, hfilled⟩ := begun.run_setSteps name (Foreign.writes addresses)
  obtain ⟨hfinishRegistry, hfinished⟩ := filled.step_finish name (htables ▸ hnew)
  calc
    _ = ((finished.tables.find? tableName).bind fun table ↦
          (finished.registry.publish key table).toOption).getD finished.registry := by
      rw [hrun, registry_step_publish]
    _ = ((((UnfinishedTable.ofSize addresses.length).setAll
          (Foreign.writes addresses)).toOption.bind fun table ↦ table.finish.toOption).bind
            fun table ↦ (session.registry.publish key table).toOption).getD session.registry := by
      rw [hfinished, hfilled, hbegun, Option.bind_some, hfinishRegistry, hregistry]
      rfl
    _ = _ := by
      rw [Foreign.publishSlotwise, toOption_bind, toOption_bind, Foreign.fill_eq_setAll]

/-! ## Calls from C -/

theorem step_foreignPublish_of_ok {pointer : Foreign.KeyPointer} {slots : Foreign.TablePointer}
    {size : Nat} {published : Registry}
    (h : Foreign.publish session.registry pointer slots size = .ok published) :
    session.step (.foreignPublish pointer slots size) =
      ({ session with registry := published }, .status 0) := by
  rw [step, foreignPublish, h]
  rfl

theorem step_foreignPublish_of_error {pointer : Foreign.KeyPointer} {slots : Foreign.TablePointer}
    {size : Nat} {e : Error}
    (h : Foreign.publish session.registry pointer slots size = .error e) :
    session.step (.foreignPublish pointer slots size) = (session, .status (-1)) := by
  rw [step, foreignPublish, h]
  rfl

theorem status_step_foreignPublish_iff {pointer : Foreign.KeyPointer}
    {slots : Foreign.TablePointer} {size : Nat} :
    (session.step (.foreignPublish pointer slots size)).2 = .status 0 ↔
      ∃ published, Foreign.publish session.registry pointer slots size = .ok published := by
  cases h : Foreign.publish session.registry pointer slots size with
  | ok published => simp [step_foreignPublish_of_ok h]
  | error e => simp [step_foreignPublish_of_error h]

theorem registry_step_foreignPublish (session : Session) (pointer : Foreign.KeyPointer)
    (slots : Foreign.TablePointer) (size : Nat) :
    (session.step (.foreignPublish pointer slots size)).1.registry =
      (Foreign.publish session.registry pointer slots size).toOption.getD session.registry := by
  cases h : Foreign.publish session.registry pointer slots size with
  | ok published => rw [step_foreignPublish_of_ok h]; rfl
  | error e => rw [step_foreignPublish_of_error h]; rfl

end Session

/-- A call of `publish` from C reports success exactly if its pointers can be published, and a call
that fails leaves the session alone. A call that succeeds binds the key to the table of the
addresses and does nothing else. In any case the registry is as it is after the table was filled
slot by slot, finished and published. A call of `acquire` gives a table exactly if the registry has
it under the key that the pointer spells. -/
theorem foreignCalls_exact (session : Session) (pointer : Foreign.KeyPointer)
    (slots : Foreign.TablePointer) (size : Nat) :
    ((session.step (.foreignPublish pointer slots size)).2 = .status 0 ↔
      ∃ key addresses,
        Foreign.Publishable session.registry pointer slots size key addresses) ∧
    ((session.step (.foreignPublish pointer slots size)).2 ≠ .status 0 →
      session.step (.foreignPublish pointer slots size) = (session, .status (-1))) ∧
    (∀ key addresses, Foreign.Publishable session.registry pointer slots size key addresses →
      ∃ registry,
        (session.step (.foreignPublish pointer slots size)).1 = { session with registry } ∧
        ∀ other, registry.find? other =
          if other = key then some ⟨addresses⟩ else session.registry.find? other) ∧
    (∀ key addresses, Foreign.Spells pointer key → Foreign.Holds slots size addresses →
      ∀ name tableName, session.tables.find? tableName = none →
        (session.run (Session.slotwiseSteps name tableName key addresses)).1.registry =
          (session.step (.foreignPublish pointer slots size)).1.registry) ∧
    ∃ table?, session.step (.foreignAcquire pointer) = (session, .pointer table?) ∧
      ∀ table, table? = some table ↔
        ∃ key, Foreign.Spells pointer key ∧ session.registry.acquire key = .ok table := by
  refine ⟨?_, ?_, ?_, ?_, ?_⟩
  · rw [Session.status_step_foreignPublish_iff]
    simp only [Foreign.publish_eq_ok_iff]
    constructor
    · rintro ⟨published, key, addresses, h, -⟩
      exact ⟨key, addresses, h⟩
    · rintro ⟨key, addresses, h⟩
      exact ⟨_, key, addresses, h, rfl⟩
  · intro hfailure
    cases h : Foreign.publish session.registry pointer slots size with
    | ok published => exact absurd (Session.status_step_foreignPublish_iff.mpr ⟨_, h⟩) hfailure
    | error e => exact Session.step_foreignPublish_of_error h
  · intro key addresses h
    have hpublish := Foreign.publish_eq_ok_iff.mpr ⟨key, addresses, h, rfl⟩
    exact ⟨_, congrArg Prod.fst (Session.step_foreignPublish_of_ok hpublish),
      NameMap.find?_insert session.registry.tables key ⟨addresses⟩⟩
  · intro key addresses hkey hholds name tableName hnew
    obtain ⟨hslots, rfl⟩ := Foreign.holds_iff.mp hholds
    rw [Session.registry_run_slotwiseSteps hnew, Session.registry_step_foreignPublish,
      Foreign.publish_eq_slotwise hkey hslots]
  · refine ⟨_, rfl, fun table ↦ ?_⟩
    rw [toOption_eq_some_iff, Foreign.acquire_eq_ok_iff]

/-- An empty table is published. -/
def occupiedSession : Session := (Session.run {} [.foreignPublish (some [97]) none 0]).1

theorem foreignCalls_exact_occupiedSession :
    Foreign.Publishable occupiedSession.registry (some [98, 0, 99]) (some [16, 32, 0]) 2 "b"
      [16, 32] ∧
    (occupiedSession.step (.foreignPublish (some [98, 0, 99]) (some [16, 32, 0]) 2)).2 =
      .status 0 ∧
    (occupiedSession.run (Session.slotwiseSteps "t" "t" "b" [16, 32])).1.registry =
      (occupiedSession.step (.foreignPublish (some [98, 0, 99]) (some [16, 32, 0]) 2)).1.registry ∧
    occupiedSession.step (.foreignPublish (some [97]) none 0) = (occupiedSession, .status (-1)) ∧
    occupiedSession.step (.foreignAcquire (some [97])) =
      (occupiedSession, .pointer (some ⟨[]⟩)) := by
  have hspells : Foreign.Spells (some [98, 0, 99]) "b" := ⟨_, rfl, by decide +kernel⟩
  have hholds : Foreign.Holds (some [16, 32, 0]) 2 [16, 32] := ⟨rfl, .inr ⟨_, rfl, [0], rfl⟩⟩
  have h : Foreign.Publishable occupiedSession.registry (some [98, 0, 99]) (some [16, 32, 0]) 2
      "b" [16, 32] :=
    ⟨hspells, by decide, by decide +kernel, hholds, by simp⟩
  obtain ⟨hstatus, _, _, hslotwise, _⟩ :=
    foreignCalls_exact occupiedSession (some [98, 0, 99]) (some [16, 32, 0]) 2
  obtain ⟨_, hfails, _, _, table?, hacquire, htable⟩ :=
    foreignCalls_exact occupiedSession (some [97]) none 0
  have hempty : table? = some ⟨[]⟩ :=
    (htable _).mpr ⟨"a", ⟨_, rfl, by decide +kernel⟩, by decide +kernel⟩
  refine ⟨h, hstatus.mpr ⟨_, _, h⟩, hslotwise _ _ hspells hholds _ _ (by decide +kernel),
    hfails (by decide +kernel), ?_⟩
  rw [hacquire, hempty]

end ExportTable.Capsule
