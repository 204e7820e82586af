import ExportTable.Proofs.Capsule.Steps

/-!
# Published tables stay

A step of a session changes the registry only by publishing under a key that was free, and it
changes a handle only by asking the registry. So a published table stays under its key for the
rest of the session, and what a handle remembers is what the registry holds under the key of the
handle.
-/

namespace ExportTable.Capsule

theorem Registry.publish_eq_ok {registry : Registry} {key : String} {table : Table}
    (hkey : key ≠ "") (hfree : registry.isPublished key = false) :
    ∃ published, registry.publish key table = .ok published := by
  refine ⟨⟨registry.tables.insert key table⟩, ?_⟩
  rw [publish, if_neg hkey, if_neg (by simp [hfree])]

/-- Publishing does not touch what is published. -/
theorem Registry.find?_of_publish {registry published : Registry} {key other : String}
    {table found : Table} (h : registry.publish key table = .ok published)
    (hfound : registry.find? other = some found) : published.find? other = some found := by
  have hne : other ≠ key := by
    rintro rfl
    unfold publish at h
    split at h
    · cases h
    · simp [isPublished, hfound] at h
  rw [find?_publish h, if_neg hne, hfound]

theorem Registry.acquire_of_find? {registry : Registry} {key : String} {table : Table}
    (hkey : key ≠ "") (h : registry.find? key = some table) : registry.acquire key = .ok table := by
  rw [acquire, if_neg hkey, h]

namespace ImportHandle

/-- What the handle remembers, the registry holds. -/
def Agrees (handle : ImportHandle) (registry : Registry) : Prop :=
  ∀ table, handle.table? = some table → registry.find? handle.key = some table

theorem Agrees.acquire {handle : ImportHandle} {registry : Registry}
    (h : handle.Agrees registry) : (handle.acquire registry).1.Agrees registry := by
  unfold ImportHandle.acquire
  split
  next => exact h
  next =>
    split
    next found hacquire =>
      intro table htable
      cases htable
      unfold Registry.acquire at hacquire
      split at hacquire
      · cases hacquire
      · split at hacquire
        next hfind =>
          cases hacquire
          exact hfind
        next => cases hacquire
    next => exact h

theorem acquire_of_find? {handle : ImportHandle} {registry : Registry} {table : Table}
    (hkey : handle.key ≠ "") (h : handle.Agrees registry)
    (hfind : registry.find? handle.key = some table) :
    (handle.acquire registry).2 = .ok table := by
  unfold acquire
  split
  next found hfound =>
    have hsame := (h found hfound).symm.trans hfind
    rw [Option.some.inj hsame]
  next => rw [Registry.acquire_of_find? hkey hfind]

end ImportHandle

namespace Session

/-! ## Tables -/

theorem Change.find?_registry {session after : Session} {step : Step} {answer : Answer}
    (h : session.Change step answer after) {key : String} {table : Table}
    (hfind : session.registry.find? key = some table) : after.registry.find? key = some table := by
  cases h with
  | published _ _ hpublish => exact Registry.find?_of_publish hpublish hfind
  | foreignPublished _ _ hpublish => exact Registry.find?_of_publish hpublish hfind
  | _ => exact hfind

theorem find?_step {session : Session} {key : String} {table : Table}
    (h : session.registry.find? key = some table) (step : Step) :
    (session.step step).1.registry.find? key = some table :=
  (session.change_step step).find?_registry h

/-- A published table stays published, whatever happens later. -/
theorem find?_run {session : Session} {key : String} {table : Table}
    (h : session.registry.find? key = some table) (steps : List Step) :
    (session.run steps).1.registry.find? key = some table :=
  run_of_step (P := fun s ↦ s.registry.find? key = some table) find?_step h steps

/-! ## Handles -/

/-- Every handle agrees with the registry. -/
def Consistent (session : Session) : Prop :=
  ∀ name handle, session.handles.find? name = some handle → handle.Agrees session.registry

theorem consistent_initial : ({} : Session).Consistent := by
  intro name handle hhandle
  cases hhandle

/-- One handle is put over the others. -/
theorem Consistent.insert {session : Session} (h : session.Consistent) (name : String)
    {handle : ImportHandle} (hagrees : handle.Agrees session.registry) :
    Consistent { session with handles := session.handles.insert name handle } := by
  intro other found hfound
  rw [NameMap.find?_insert] at hfound
  split at hfound
  · cases hfound
    exact hagrees
  · exact h other found hfound

/-- What the handles remember does not change when a table is published. -/
theorem Consistent.publish {session after : Session} (h : session.Consistent) {key : String}
    {table : Table} (hpublish : session.registry.publish key table = .ok after.registry)
    (hhandles : after.handles = session.handles) : after.Consistent := by
  intro name handle hhandle found hfound
  rw [hhandles] at hhandle
  exact Registry.find?_of_publish hpublish (h name handle hhandle found hfound)

theorem Change.consistent {session after : Session} {step : Step} {answer : Answer}
    (h : session.Change step answer after) (hconsistent : session.Consistent) :
    after.Consistent := by
  cases h with
  | published _ _ hpublish => exact hconsistent.publish hpublish rfl
  | foreignPublished _ _ hpublish => exact hconsistent.publish hpublish rfl
  | newHandle name key => exact hconsistent.insert name fun _ hnone ↦ by cases hnone
  | usedHandle hhandle => exact hconsistent.insert _ (hconsistent _ _ hhandle).acquire
  | _ => exact hconsistent

theorem consistent_step {session : Session} (h : session.Consistent) (step : Step) :
    (session.step step).1.Consistent :=
  (session.change_step step).consistent h

theorem consistent_run {session : Session} (h : session.Consistent) (steps : List Step) :
    (session.run steps).1.Consistent :=
  run_of_step consistent_step h steps

/-- Both ways to ask for the key give the table. -/
def Serves (session : Session) (key : String) (table : Table) : Prop :=
  (session.step (.acquire key)).2 = .table table ∧
    ∀ name handle, session.handles.find? name = some handle → handle.key = key →
      (session.step (.useHandle name)).2 = .table table

theorem serves_of_find? {session : Session} {key : String} {table : Table} (hkey : key ≠ "")
    (hconsistent : session.Consistent) (hfind : session.registry.find? key = some table) :
    session.Serves key table := by
  constructor
  · rw [step, Registry.acquire_of_find? hkey hfind]
    rfl
  · rintro name handle hhandle rfl
    have hagrees := hconsistent name handle hhandle
    rw [step, useHandle, hhandle]
    dsimp only
    rw [ImportHandle.acquire_of_find? hkey hagrees hfind]
    rfl

/-- A table that is published is served from then on. -/
theorem serves_run {session : Session} {key : String} {table : Table} (hkey : key ≠ "")
    (hconsistent : session.Consistent) (hfind : session.registry.find? key = some table)
    (steps : List Step) : (session.run steps).1.Serves key table :=
  serves_of_find? hkey (consistent_run hconsistent steps) (find?_run hfind steps)

end Session

end ExportTable.Capsule
