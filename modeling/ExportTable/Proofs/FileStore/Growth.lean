import ExportTable.FileStore.Write
import ExportTable.Proofs.Path
import ExportTable.Proofs.Result

/-!
# Stores that grow

Writing only ever adds nodes and replaces files. So each way that leads somewhere in the old store
leads to the same place in the new one, and a path that was written leads to what it wrote.
-/

namespace ExportTable.FileStore

/-! ## Steps of a walk -/

section Enter

variable {store : FileStore} {place location : Location} {segment : List Char}

theorem enter_idle (hplace : store.node? place = some .directory) (h : Path.isIdle segment) :
    store.enter place segment = .ok place := by
  rw [enter, hplace]
  exact if_pos h

theorem enter_up (hplace : store.node? place = some .directory) :
    store.enter place ['.', '.'] = .ok place.dropLast := by
  rw [enter, hplace]
  rfl

theorem enter_name (hplace : store.node? place = some .directory) (hidle : ¬ Path.isIdle segment)
    (hup : segment ≠ ['.', '.']) (hname : checkName (String.ofList segment) = .ok ())
    (hpresent : store.node? (place ++ [String.ofList segment]) ≠ none) :
    store.enter place segment = .ok (place ++ [String.ofList segment]) := by
  obtain ⟨node, hnode⟩ := Option.ne_none_iff_exists'.mp hpresent
  rw [enter, hplace]
  dsimp only
  rw [if_neg hidle, if_neg hup, hname, ok_bind, hnode]
  rfl

/-- A step stays in its directory, leads to the one above, or leads to what has the name. -/
theorem enter_cases (h : store.enter place segment = .ok location) :
    store.node? place = some .directory ∧
      (Path.isIdle segment ∧ location = place ∨
        segment = ['.', '.'] ∧ location = place.dropLast ∨
        ¬ Path.isIdle segment ∧ segment ≠ ['.', '.'] ∧
          checkName (String.ofList segment) = .ok () ∧ store.node? location ≠ none ∧
          location = place ++ [String.ofList segment]) := by
  unfold enter at h
  split at h
  · next hplace =>
    refine ⟨hplace, ?_⟩
    split at h
    · next hidle => exact .inl ⟨hidle, (Except.ok.inj h).symm⟩
    split at h
    · next hup => exact .inr (.inl ⟨hup, (Except.ok.inj h).symm⟩)
    next hidle hup =>
    obtain ⟨_, hname, h⟩ := bind_eq_ok_iff.mp h
    split at h
    · next node hnode =>
      obtain rfl := Except.ok.inj h
      exact .inr (.inr ⟨hidle, hup, hname, by rw [hnode]; exact nofun, rfl⟩)
    · cases h
  · cases h
  · cases h

end Enter

/-! ## Ways -/

/-- The location lies on the way of the path. -/
def Passes (store : FileStore) (path : Path) (location : Location) : Prop :=
  ∃ walked, walked <+: path.segments ∧
    walked.foldlM store.enter (store.start path) = .ok location

theorem eq_of_walk_empty {store : FileStore} {segments : List (List Char)}
    {place location : Location} (hempty : ∀ segment ∈ segments, segment = [])
    (h : segments.foldlM store.enter place = .ok location) : location = place := by
  induction segments generalizing place with
  | nil => exact (Except.ok.inj h).symm
  | cons segment rest ih =>
    obtain ⟨rfl, hrest⟩ := List.forall_mem_cons.mp hempty
    rw [List.foldlM_cons] at h
    obtain ⟨next, hnext, hwalk⟩ := bind_eq_ok_iff.mp h
    obtain ⟨-, ⟨-, rfl⟩ | ⟨hup, -⟩ | ⟨hidle, -⟩⟩ := enter_cases hnext
    · exact ih hrest hwalk
    · cases hup
    · exact absurd rfl hidle

/-- The way of the parent is a part of the way. -/
theorem Passes.of_parent {store : FileStore} {path parent : Path} {location : Location}
    (hparent : path.parent? = some parent) (h : store.Passes parent location) :
    store.Passes path location := by
  obtain ⟨walked, hwalked, hwalk⟩ := h
  have hstart : store.start parent = store.start path := by
    rw [start, start, Path.isAbsolute_parent hparent]
  rw [hstart] at hwalk
  rcases Path.segments_parent hparent with hsegments | hempty
  · exact ⟨walked, hwalked.trans hsegments, hwalk⟩
  · obtain rfl := eq_of_walk_empty (fun segment hmem ↦ hempty segment (hwalked.subset hmem)) hwalk
    exact ⟨[], List.nil_prefix, rfl⟩

/-! ## Growth -/

/-- The directories of the old store are directories of the new one, and nothing is taken away. -/
structure Grows (old new : FileStore) : Prop where
  workingDir : new.workingDir = old.workingDir
  directory : ∀ location, old.node? location = some .directory →
    new.node? location = some .directory
  present : ∀ location, old.node? location ≠ none → new.node? location ≠ none

namespace Grows

variable {old middle new : FileStore}

protected theorem rfl : old.Grows old := ⟨rfl, fun _ h ↦ h, fun _ h ↦ h⟩

theorem trans (h : old.Grows middle) (h' : middle.Grows new) : old.Grows new where
  workingDir := h'.workingDir.trans h.workingDir
  directory location hold := h'.directory location (h.directory location hold)
  present location hold := h'.present location (h.present location hold)

theorem start (h : old.Grows new) (path : Path) : new.start path = old.start path := by
  rw [FileStore.start, FileStore.start, h.workingDir]

theorem enter (h : old.Grows new) {place location : Location} {segment : List Char}
    (henter : old.enter place segment = .ok location) :
    new.enter place segment = .ok location := by
  obtain ⟨hplace, ⟨hidle, rfl⟩ | ⟨rfl, rfl⟩ | ⟨hidle, hup, hname, hpresent, rfl⟩⟩ :=
    enter_cases henter
  · exact enter_idle (h.directory _ hplace) hidle
  · exact enter_up (h.directory _ hplace)
  · exact enter_name (h.directory _ hplace) hidle hup hname (h.present _ hpresent)

theorem walk (h : old.Grows new) {segments : List (List Char)} {place location : Location}
    (hwalk : segments.foldlM old.enter place = .ok location) :
    segments.foldlM new.enter place = .ok location := by
  induction segments generalizing place with
  | nil => exact hwalk
  | cons segment rest ih =>
    rw [List.foldlM_cons] at hwalk ⊢
    obtain ⟨next, hnext, hrest⟩ := bind_eq_ok_iff.mp hwalk
    rw [h.enter hnext, ok_bind, ih hrest]

theorem locate (h : old.Grows new) {path : Path} {location : Location}
    (hlocate : old.locate path = .ok location) : new.locate path = .ok location := by
  obtain ⟨_, hcheck, hwalk⟩ := bind_eq_ok_iff.mp hlocate
  rw [FileStore.locate, hcheck, ok_bind, h.start, h.walk hwalk]

theorem passes (h : old.Grows new) {path : Path} {location : Location}
    (hpasses : old.Passes path location) : new.Passes path location := by
  obtain ⟨walked, hwalked, hwalk⟩ := hpasses
  exact ⟨walked, hwalked, by rw [h.start, h.walk hwalk]⟩

/-- A store grows where a node is put in the place of nothing or of a file. -/
theorem put {store : FileStore} {location : Location}
    (h : store.node? location ≠ some .directory) (node : Node) :
    store.Grows (store.put location node) := by
  have hroot : location ≠ [] := by
    rintro rfl
    exact h rfl
  refine ⟨rfl, fun other hother ↦ ?_, fun other hother ↦ ?_⟩ <;> rw [node?_put _ _ hroot]
  · rw [if_neg, hother]
    rintro rfl
    exact h hother
  · split
    · exact nofun
    · exact hother

end Grows

end ExportTable.FileStore
