import ExportTable.Proofs.Capsule.Publications

/-!
# A handle answers as the registry does

A handle remembers its table and never asks again. Since published tables stay, what it remembers is
what the registry would answer: in every session that starts with an empty registry, to use a handle
is to look up its key. A name stands for the same handle until a new handle is given that name.
-/

namespace ExportTable.Capsule

theorem Answer.ofResult_eq_table {result : Except Error Table} {found : Table}
    (h : ofResult result = table found) : result = .ok found := by
  cases result with
  | error e => cases h
  | ok other =>
    cases h
    rfl

namespace ImportHandle

theorem acquire_of_table? {handle : ImportHandle} {table : Table} (h : handle.table? = some table)
    (registry : Registry) : handle.acquire registry = (handle, .ok table) := by
  rw [acquire, h]

theorem acquire_of_table?_eq_none {handle : ImportHandle} (h : handle.table? = none)
    (registry : Registry) :
    (handle.acquire registry).2 = registry.acquire handle.key := by
  rw [acquire, h]
  dsimp only
  split
  next hacquire => rw [hacquire]
  next hacquire => rw [hacquire]

theorem key_acquire (handle : ImportHandle) (registry : Registry) :
    (handle.acquire registry).1.key = handle.key := by
  unfold acquire
  split
  · rfl
  · split <;> rfl

/-- A handle that gets a table remembers it. -/
theorem acquire_eq_of_ok {handle : ImportHandle} {registry : Registry} {table : Table}
    (h : (handle.acquire registry).2 = .ok table) :
    (handle.acquire registry).1 = { handle with table? := some table } := by
  unfold acquire at h ⊢
  split
  next found hfound =>
    rw [hfound] at h
    cases h
    rw [← hfound]
  next hnone =>
    rw [hnone] at h
    split
    next found hacquire =>
      rw [hacquire] at h
      cases h
      rfl
    next e hacquire =>
      rw [hacquire] at h
      cases h

theorem isSome_function?_iff (handle : ImportHandle) (index : Nat) :
    (handle.function? index).isSome ↔ ∃ table, handle.table? = some table ∧ index < table.size := by
  cases h : handle.table? with
  | none => simp [function?, h]
  | some table => simp [function?, h, Table.get?, Table.size]

end ImportHandle

namespace Session

theorem step_useHandle {session : Session} {name : String} {handle : ImportHandle}
    (h : session.handles.find? name = some handle) :
    session.step (.useHandle name) =
      ({ session with handles := session.handles.insert name (handle.acquire session.registry).1 },
        .ofResult (handle.acquire session.registry).2) := by
  rw [step, useHandle, h]

/-- A step leaves a handle alone or asks the registry for it, unless it puts a new one in its
place. -/
theorem Change.find?_handles {session after : Session} {step : Step} {answer : Answer}
    (h : session.Change step answer after) {name : String} {handle : ImportHandle}
    (hhandle : session.handles.find? name = some handle)
    (hnew : ∀ key, step ≠ .newHandle name key) :
    after.handles.find? name = some handle ∨
      after.handles.find? name = some (handle.acquire session.registry).1 := by
  cases h with
  | newHandle other key =>
    have hne : name ≠ other := by
      rintro rfl
      exact hnew key rfl
    left
    rw [NameMap.find?_insert, if_neg hne, hhandle]
  | @usedHandle other used hused =>
    by_cases heq : name = other
    · subst heq
      cases hhandle.symm.trans hused
      right
      rw [NameMap.find?_insert, if_pos rfl]
    · left
      rw [NameMap.find?_insert, if_neg heq, hhandle]
  | _ => exact .inl hhandle

/-- A handle keeps its key, and with a table it stays as it is. -/
theorem find?_handles_run {session : Session} {name : String} {handle : ImportHandle}
    (hhandle : session.handles.find? name = some handle) {steps : List Step}
    (hnew : ∀ key, Step.newHandle name key ∉ steps) :
    ∃ last, (session.run steps).1.handles.find? name = some last ∧ last.key = handle.key ∧
      (handle.isImported → last = handle) := by
  induction steps generalizing session handle with
  | nil => exact ⟨handle, hhandle, rfl, fun _ ↦ rfl⟩
  | cons step rest ih =>
    have hstep : ∀ key, step ≠ .newHandle name key := by
      rintro key rfl
      exact hnew key List.mem_cons_self
    have hrest : ∀ key, Step.newHandle name key ∉ rest := fun key hmem ↦
      hnew key (List.mem_cons_of_mem _ hmem)
    rcases (session.change_step step).find?_handles hhandle hstep with hkept | hasked
    · exact ih hkept hrest
    · obtain ⟨last, hlast, hkey, hsame⟩ := ih hasked hrest
      refine ⟨last, hlast, hkey.trans (handle.key_acquire _), fun himported ↦ ?_⟩
      obtain ⟨table, htable⟩ := Option.isSome_iff_exists.mp himported
      rw [ImportHandle.acquire_of_table? htable] at hsame
      exact hsame himported

theorem acquire_eq_lookup {session : Session} (hsound : session.Sound)
    (hconsistent : session.Consistent) {name : String} {handle : ImportHandle}
    (hhandle : session.handles.find? name = some handle) :
    (handle.acquire session.registry).2 = session.registry.acquire handle.key := by
  cases h : handle.table? with
  | none => exact ImportHandle.acquire_of_table?_eq_none h session.registry
  | some table =>
    have hfind := hconsistent name handle hhandle table h
    have hkey := (hsound.published handle.key table hfind).1
    rw [ImportHandle.acquire_of_table? h, Registry.acquire_of_find? hkey hfind]

/-- Whatever happened to a handle before, it gets the table of its key once this is published. -/
theorem useHandle_of_mem_publications {session : Session} (hsound : session.Sound)
    (hconsistent : session.Consistent) {name : String} {handle : ImportHandle}
    (hhandle : session.handles.find? name = some handle) {later : List Step} {table : Table}
    (hnew : ∀ key, Step.newHandle name key ∉ later)
    (hpublished : (handle.key, table) ∈ session.publications later) :
    ((session.run later).1.step (.useHandle name)).2 = .table table := by
  obtain ⟨last, hlast, hkey, _⟩ := find?_handles_run hhandle hnew
  have hfind := find?_run_iff.mpr (.inr hpublished)
  have hne := ((sound_run hsound later).published handle.key table hfind).1
  have hserves := serves_of_find? hne (consistent_run hconsistent later) hfind
  exact hserves.2 name last hlast hkey

end Session

/-- In a session that starts with an empty registry, to use a handle is to look up its key. Once it
has got a table it keeps it, which is the one that the registry holds under its key, and has an
address at each index below the size of the table. A handle that asked in vain is the same as
before, and gets the table once it is published. -/
theorem useHandle_eq_lookup {steps : List Step} {session : Session} {name : String}
    {handle : ImportHandle} (hsession : session = (Session.run {} steps).1)
    (hhandle : session.handles.find? name = some handle) :
    (session.step (.useHandle name)).2 = (session.step (.acquire handle.key)).2 ∧
    (∀ table, handle.table? = some table →
      session.registry.find? handle.key = some table ∧
      ∀ later, (∀ key, Step.newHandle name key ∉ later) →
        (session.run later).1.handles.find? name = some handle) ∧
    (∀ index, (handle.function? index).isSome ↔
      ∃ table, handle.table? = some table ∧ index < table.size) ∧
    (∀ table, (session.step (.useHandle name)).2 = .table table →
      (session.step (.useHandle name)).1.handles.find? name =
        some { handle with table? := some table }) ∧
    ∀ e, (session.step (.useHandle name)).2 = .failed e →
      handle.table? = none ∧
      (session.step (.useHandle name)).1.handles.find? name = some handle ∧
      ∀ later table, (∀ key, Step.newHandle name key ∉ later) →
        (handle.key, table) ∈ (session.step (.useHandle name)).1.publications later →
          (((session.step (.useHandle name)).1.run later).1.step (.useHandle name)).2 =
            .table table := by
  have hsound : session.Sound := hsession ▸ Session.sound_run Session.sound_initial steps
  have hconsistent : session.Consistent :=
    hsession ▸ Session.consistent_run Session.consistent_initial steps
  have hlookup := Session.acquire_eq_lookup hsound hconsistent hhandle
  have hstep := Session.step_useHandle hhandle
  refine ⟨?_, ?_, handle.isSome_function?_iff, ?_, ?_⟩
  · rw [hstep, hlookup]
    rfl
  · intro table htable
    refine ⟨hconsistent name handle hhandle table htable, fun later hnew ↦ ?_⟩
    obtain ⟨last, hlast, _, hsame⟩ := Session.find?_handles_run hhandle hnew
    rw [hlast, hsame (by rw [ImportHandle.isImported, htable]; rfl)]
  · intro table htable
    rw [hstep] at htable
    have hacquire := Answer.ofResult_eq_table htable
    rw [hstep]
    dsimp only
    rw [NameMap.find?_insert, if_pos rfl, ImportHandle.acquire_eq_of_ok hacquire]
  · intro e hfailed
    have hnone : handle.table? = none := by
      cases h : handle.table? with
      | none => rfl
      | some table =>
        rw [hstep, ImportHandle.acquire_of_table? h] at hfailed
        cases hfailed
    have hkept : (session.step (.useHandle name)).1.handles.find? name = some handle := by
      have hsame := (session.change_step (.useHandle name)).eq_of_isFailure (by rw [hfailed]; rfl)
      rw [hsame.2, hhandle]
    refine ⟨hnone, hkept, fun later table hnew hpublished ↦ ?_⟩
    exact Session.useHandle_of_mem_publications (Session.sound_step hsound _)
      (Session.consistent_step hconsistent _) hkept hnew hpublished

/-- A table is filled while the handle of its key has asked in vain. -/
def waitingSteps : List Step :=
  [.newHandle "consumer" "api", .begin "table" 1, .set "table" 0 16, .finish "table" "table"]

theorem useHandle_eq_lookup_waitingSteps :
    ∃ session handle, session = (Session.run {} waitingSteps).1 ∧
      session.handles.find? "consumer" = some handle ∧
      (session.step (.useHandle "consumer")).2 = .failed (.notPublished "api") ∧
      (((session.step (.useHandle "consumer")).1.run [.publish "api" "table"]).1.step
        (.useHandle "consumer")).2 = .table ⟨[16]⟩ := by
  have hhandle : (Session.run {} waitingSteps).1.handles.find? "consumer" =
      some { key := "api" } := by
    decide +kernel
  have hfailed : ((Session.run {} waitingSteps).1.step (.useHandle "consumer")).2 =
      .failed (.notPublished "api") := by
    decide +kernel
  refine ⟨_, { key := "api" }, rfl, hhandle, hfailed, ?_⟩
  obtain ⟨_, _, _, _, hretry⟩ := useHandle_eq_lookup rfl hhandle
  exact (hretry _ hfailed).2.2 [.publish "api" "table"] ⟨[16]⟩ (by simp) (by decide +kernel)

end ExportTable.Capsule
