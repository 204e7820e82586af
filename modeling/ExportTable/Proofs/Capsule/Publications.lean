import ExportTable.Proofs.Capsule.WriteOnce

/-!
# The registry is written once

A publication is a step that answers with success to a call of `publish`, from either side; it says
by itself which table it puts under which key. The registry of a session holds exactly what was
published in it: every key is published at most once, nothing else writes to the registry, and a
step that fails writes neither to the registry nor to a handle.
-/

namespace ExportTable.Capsule

/-- The caller is told that nothing was done, or gets nothing. -/
def Answer.isFailure : Answer → Bool
  | failed _ | missing _ => true
  | status number => number ≠ 0
  | pointer table? => table?.isNone
  | done | table _ | handle _ | published _ => false

theorem Registry.of_publish {registry published : Registry} {key : String} {table : Table}
    (h : registry.publish key table = .ok published) :
    key ≠ "" ∧ registry.find? key = none := by
  unfold publish at h
  split at h
  · cases h
  next hkey =>
    split at h
    · cases h
    next hfree =>
      refine ⟨hkey, ?_⟩
      simpa [isPublished] using hfree

namespace Session

theorem run_append (session : Session) (earlier later : List Step) :
    (session.run (earlier ++ later)).1 = ((session.run earlier).1.run later).1 := by
  induction earlier generalizing session with
  | nil => rfl
  | cons step rest ih => exact ih (session.step step).1

/-- A call from C that reports success has published what its pointers denote. -/
theorem publication?_of_status {session : Session} {key : Foreign.KeyPointer}
    {slots : Foreign.TablePointer} {size : Nat}
    (h : (session.step (.foreignPublish key slots size)).2 = .status 0) :
    ∃ name table, Foreign.denoted? key slots size = some (name, table) := by
  rw [step, foreignPublish] at h
  split at h
  next registry hpublish =>
    obtain ⟨name, table, hdenoted, _⟩ := Foreign.denoted?_of_publish hpublish
    exact ⟨name, table, hdenoted⟩
  next e hpublish =>
    rw [hpublish] at h
    cases h

/-- What is published in the course of some steps, in their order. -/
def publications (session : Session) : List Step → List (String × Table)
  | [] => []
  | step :: rest =>
    let (after, answer) := session.step step
    (step.publication? answer).toList ++ after.publications rest

/-- Every table that exists, published or not, is complete. -/
structure Sound (session : Session) : Prop where
  published : ∀ key table, session.registry.find? key = some table → key ≠ "" ∧ table.Complete
  finished : ∀ name table, session.tables.find? name = some table → table.Complete

theorem sound_initial : ({} : Session).Sound where
  published _ _ h := by cases h
  finished _ _ h := by cases h

theorem Sound.publish {session : Session} (h : session.Sound) {registry : Registry} {key : String}
    {table : Table} (hcomplete : table.Complete)
    (hpublish : session.registry.publish key table = .ok registry) :
    ∀ other found, registry.find? other = some found → other ≠ "" ∧ found.Complete := by
  intro other found hfound
  rw [Registry.find?_publish hpublish] at hfound
  split at hfound
  next heq =>
    cases hfound
    exact ⟨heq ▸ (Registry.of_publish hpublish).1, hcomplete⟩
  next => exact h.published other found hfound

theorem Sound.erase {session : Session} (h : session.Sound) (name : String) :
    ∀ other table, (session.tables.erase name).find? other = some table → table.Complete := by
  intro other table hfound
  rw [NameMap.find?_erase] at hfound
  split at hfound
  · cases hfound
  · exact h.finished other table hfound

theorem Change.sound {session after : Session} {step : Step} {answer : Answer}
    (h : session.Change step answer after) (hsound : session.Sound) : after.Sound := by
  cases h with
  | finished _ name _ hfinish =>
    refine ⟨hsound.published, fun other found hfound ↦ ?_⟩
    rw [NameMap.find?_insert] at hfound
    split at hfound
    · cases hfound
      exact (UnfinishedTable.finish_eq_ok_iff.mp hfinish).2
    · exact hsound.finished other found hfound
  | refused name => exact ⟨hsound.published, hsound.erase name⟩
  | published _ htable hpublish =>
    exact ⟨hsound.publish (hsound.finished _ _ htable) hpublish, hsound.erase _⟩
  | foreignPublished _ hcomplete hpublish =>
    exact ⟨hsound.publish hcomplete hpublish, hsound.finished⟩
  | _ => exact ⟨hsound.published, hsound.finished⟩

theorem sound_step {session : Session} (h : session.Sound) (step : Step) :
    (session.step step).1.Sound :=
  (session.change_step step).sound h

theorem sound_run {session : Session} (h : session.Sound) (steps : List Step) :
    (session.run steps).1.Sound :=
  run_of_step sound_step h steps

/-! ## Publications -/

theorem Change.registry_of_publication {session after : Session} {step : Step} {answer : Answer}
    (h : session.Change step answer after) {key : String} {table : Table}
    (hpublication : step.publication? answer = some (key, table)) :
    session.registry.publish key table = .ok after.registry := by
  cases h with
  | unfinished _ hnone => cases hpublication.symm.trans hnone
  | finished _ _ hnone => cases hpublication.symm.trans hnone
  | refused _ hnone => cases hpublication.symm.trans hnone
  | published hsome _ hpublish =>
    cases hpublication.symm.trans hsome
    exact hpublish
  | foreignPublished hsome _ hpublish =>
    cases hpublication.symm.trans hsome
    exact hpublish
  | newHandle => cases hpublication
  | usedHandle => cases hpublication

theorem Change.registry_eq {session after : Session} {step : Step} {answer : Answer}
    (h : session.Change step answer after) (hpublication : step.publication? answer = none) :
    after.registry = session.registry := by
  cases h with
  | published hsome => cases hpublication.symm.trans hsome
  | foreignPublished hsome => cases hpublication.symm.trans hsome
  | _ => rfl

theorem registry_of_publication {session : Session} {step : Step} {key : String} {table : Table}
    (h : step.publication? (session.step step).2 = some (key, table)) :
    session.registry.publish key table = .ok (session.step step).1.registry :=
  (session.change_step step).registry_of_publication h

theorem publications_cons (session : Session) (step : Step) (rest : List Step) :
    session.publications (step :: rest) =
      (step.publication? (session.step step).2).toList ++
        (session.step step).1.publications rest := rfl

/-- A key that is published later is free until then. -/
theorem find?_eq_none_of_mem_publications {session : Session} {steps : List Step} {key : String}
    {table : Table} (h : (key, table) ∈ session.publications steps) :
    session.registry.find? key = none := by
  induction steps generalizing session with
  | nil => cases h
  | cons step rest ih =>
    rw [publications_cons, List.mem_append, Option.mem_toList] at h
    rcases h with h | h
    · exact (Registry.of_publish (registry_of_publication h)).2
    · -- Were the key taken now, it would still be taken after the step.
      cases hfound : session.registry.find? key with
      | none => rfl
      | some found => cases (ih h).symm.trans (find?_step hfound step)

theorem nodup_publications (session : Session) (steps : List Step) :
    ((session.publications steps).map Prod.fst).Nodup := by
  induction steps generalizing session with
  | nil => exact List.nodup_nil
  | cons step rest ih =>
    rw [publications_cons]
    cases h : step.publication? (session.step step).2 with
    | none => exact ih _
    | some publication =>
      obtain ⟨key, table⟩ := publication
      refine List.nodup_cons.mpr ⟨fun hmem ↦ ?_, ih _⟩
      obtain ⟨⟨again, other⟩, hagain, rfl⟩ := List.mem_map.mp hmem
      have hfound := Registry.find?_publish (registry_of_publication h) again
      rw [if_pos rfl] at hfound
      cases hfound.symm.trans (find?_eq_none_of_mem_publications hagain)

/-- What is bound after some steps was bound before or is published by them. -/
theorem find?_run_iff {session : Session} {steps : List Step} {key : String} {table : Table} :
    (session.run steps).1.registry.find? key = some table ↔
      session.registry.find? key = some table ∨ (key, table) ∈ session.publications steps := by
  induction steps generalizing session with
  | nil => simp [run, publications]
  | cons step rest ih =>
    have hrun : (session.run (step :: rest)).1 = ((session.step step).1.run rest).1 := rfl
    rw [hrun, ih, publications_cons, List.mem_append, ← or_assoc, Option.mem_toList]
    apply or_congr_left
    cases h : step.publication? (session.step step).2 with
    | none => simp [(session.change_step step).registry_eq h]
    | some publication =>
      obtain ⟨published, found⟩ := publication
      have hfree := (Registry.of_publish (registry_of_publication h)).2
      rw [Registry.find?_publish (registry_of_publication h)]
      by_cases hkey : key = published
      · subst hkey
        simp [hfree, eq_comm]
      · simp [hkey, Ne.symm hkey]

/-! ## Failures -/

theorem publication?_of_isFailure {answer : Answer} (h : answer.isFailure) (step : Step) :
    step.publication? answer = none := by
  unfold Step.publication?
  split
  · cases h
  · cases h
  · rfl

/-- A handle that asks in vain is the same as before. -/
theorem acquire_of_isFailure {handle : ImportHandle} {registry : Registry}
    (h : (Answer.ofResult (handle.acquire registry).2).isFailure) :
    (handle.acquire registry).1 = handle := by
  unfold ImportHandle.acquire at h ⊢
  split
  next => rfl
  next hnone =>
    rw [hnone] at h
    split
    next table hacquire =>
      rw [hacquire] at h
      cases h
    next => rfl

/-- A step that fails leaves the registry and the handles as they were. -/
theorem Change.eq_of_isFailure {session after : Session} {step : Step} {answer : Answer}
    (h : session.Change step answer after) (hfailure : answer.isFailure) :
    after.registry = session.registry ∧ after.handles = session.handles := by
  refine ⟨h.registry_eq (publication?_of_isFailure hfailure step), ?_⟩
  cases h with
  | newHandle => cases hfailure
  | usedHandle hhandle =>
    rw [acquire_of_isFailure hfailure]
    exact NameMap.insert_of_find? hhandle
  | _ => rfl

end Session

/-- In a session that starts with an empty registry, at most one publication is made under a key,
and from then on the registry holds its table, which is complete; the key is not empty. The
registry holds nothing else, no step changes what it holds, a step that fails leaves the registry
and the handles as they were, and one that reports success to C is a publication. -/
theorem registry_writtenOnce (earlier later : List Step) :
    ((Session.publications {} (earlier ++ later)).map Prod.fst).Nodup ∧
    (∀ key table, (key, table) ∈ Session.publications {} earlier →
      (Session.run {} (earlier ++ later)).1.registry.find? key = some table) ∧
    (∀ key table, (Session.run {} earlier).1.registry.find? key = some table →
      (key, table) ∈ Session.publications {} earlier ∧ key ≠ "" ∧ table.Complete) ∧
    ∀ session step, session = (Session.run {} earlier).1 →
      (∀ key table, session.registry.find? key = some table →
        (session.step step).1.registry.find? key = some table) ∧
      ((session.step step).2.isFailure → (session.step step).1.registry = session.registry ∧
        (session.step step).1.handles = session.handles) ∧
      ∀ key slots size, step = .foreignPublish key slots size →
        (session.step step).2 = .status 0 →
          ∃ name table, Foreign.denoted? key slots size = some (name, table) := by
  refine ⟨Session.nodup_publications _ _, ?_, ?_, ?_⟩
  · intro key table h
    rw [Session.run_append]
    exact Session.find?_run (Session.find?_run_iff.mpr (.inr h)) later
  · intro key table h
    have hsound := Session.sound_run Session.sound_initial earlier
    rcases Session.find?_run_iff.mp h with hinitial | hpublished
    · cases hinitial
    · exact ⟨hpublished, hsound.published key table h⟩
  · rintro session step rfl
    refine ⟨fun key table h ↦ Session.find?_step h step,
      fun hfailure ↦ (Session.change_step _ step).eq_of_isFailure hfailure, ?_⟩
    rintro key slots size rfl hstatus
    exact Session.publication?_of_status hstatus

/-- A handle that comes too early, a table that is not complete, and a second publication. -/
def rivalSteps : List Step :=
  [.newHandle "consumer" "api", .useHandle "consumer", .begin "first" 2, .set "first" 0 16,
    .set "first" 1 32, .finish "first" "first", .publish "api" "first", .useHandle "consumer",
    .begin "partial" 2, .set "partial" 1 48, .finish "partial" "partial",
    .foreignPublish (some [97, 112, 105, 0]) (some [64, 80]) 2]

theorem registry_writtenOnce_rivalSteps :
    Session.publications {} rivalSteps = [("api", ⟨[16, 32]⟩)] ∧
    (Session.run {} rivalSteps).2 =
      [.done, .failed (.notPublished "api"), .done, .done, .done, .table ⟨[16, 32]⟩,
        .table ⟨[16, 32]⟩, .table ⟨[16, 32]⟩, .done, .done, .failed (.incomplete 0), .status (-1)] ∧
    (Session.run {} (rivalSteps ++ [.acquire "api"])).1.registry.find? "api" =
      some ⟨[16, 32]⟩ := by
  have hpublications : Session.publications {} rivalSteps = [("api", ⟨[16, 32]⟩)] := by
    decide +kernel
  refine ⟨hpublications, by decide +kernel, ?_⟩
  apply (registry_writtenOnce rivalSteps [.acquire "api"]).2.1
  rw [hpublications]
  exact List.mem_singleton_self _

end ExportTable.Capsule
