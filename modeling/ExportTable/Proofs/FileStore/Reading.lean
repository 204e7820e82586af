import ExportTable.Proofs.FileStore.Writing

/-!
# What is read

Reading a path finds the node that the path leads to. A file that was written is read back as it was
written, and what a path leads to stays the same while stores are written to elsewhere. A path that
leads to a directory only passes through directories, so stores with the same directories agree
on it.
-/

namespace ExportTable.FileStore

variable {store old new : FileStore} {path : Path} {location : Location} {node : Node}

/-! ## Nodes and texts -/

theorem find_eq_ok_iff :
    store.find path = .ok node ↔
      ∃ location, store.locate path = .ok location ∧ store.node? location = some node := by
  unfold find
  rw [bind_eq_ok_iff]
  refine exists_congr fun location ↦ and_congr_right fun _ ↦ ?_
  cases store.node? location with
  | none => exact iff_of_false nofun nofun
  | some found =>
    constructor
    · exact fun h ↦ congrArg some (Except.ok.inj h)
    · exact fun h ↦ congrArg Except.ok (Option.some.inj h)

theorem fromUTF8?_eq_some_iff {bytes : ByteArray} {text : String} :
    String.fromUTF8? bytes = some text ↔ bytes = text.toUTF8 := by
  unfold String.fromUTF8?
  split
  · rw [Option.some_inj]
    constructor
    · rintro rfl
      rfl
    · rintro rfl
      rfl
  · next hinvalid =>
    refine iff_of_false nofun ?_
    rintro rfl
    exact hinvalid text.isValidUTF8

theorem readText_eq_ok_iff {text : String} :
    store.readText path = .ok text ↔ store.find path = .ok (.file text.toUTF8) := by
  unfold readText readBytes
  cases store.find path with
  | error e =>
    constructor <;> intro h <;> cases h
  | ok node =>
    cases node with
    | directory =>
      constructor <;> intro h <;> cases h
    | file bytes =>
      rw [Except.ok.injEq, Node.file.injEq, ← fromUTF8?_eq_some_iff]
      simp only [ok_bind, pure_bind]
      cases String.fromUTF8? bytes with
      | none =>
        constructor <;> intro h <;> cases h
      | some found =>
        rw [Option.some_inj]
        exact ⟨Except.ok.inj, congrArg Except.ok⟩

theorem extends_readText (h : Extends (old.find path) (new.find path)) :
    Extends (old.readText path) (new.readText path) := by
  intro text htext
  rw [readText_eq_ok_iff] at htext ⊢
  exact h _ htext

theorem isFile_iff : store.isFile path ↔ ∃ bytes, store.find path = .ok (.file bytes) := by
  unfold isFile
  cases store.find path with
  | error e => simp
  | ok node => cases node <;> simp

theorem isDirectory_iff : store.isDirectory path ↔ store.find path = .ok .directory := by
  unfold isDirectory
  cases store.find path with
  | error e => simp
  | ok node => cases node <;> simp

/-! ## Reading after writing -/

/-- A file that was written is read back. -/
theorem readText_writeText {text : String} (h : store.writeText path text = .ok new) :
    new.readText path = .ok text := by
  obtain ⟨location, rfl, hfree, hlocate⟩ := writeBytes_eq_ok h
  have hroot : location ≠ [] := by
    rintro rfl
    exact hfree rfl
  rw [readText_eq_ok_iff, find_eq_ok_iff]
  exact ⟨location, hlocate, by rw [node?_put _ _ hroot, if_pos rfl]⟩

/-- What a path leads to changes only where something was written to the same place. -/
theorem Delivers.find {directory : Path} {written : List Path}
    (h : old.Delivers directory written new) (hfind : old.find path = .ok node)
    (hother : ∀ target ∈ written, old.locate path ≠ new.locate target) :
    new.find path = .ok node := by
  obtain ⟨location, hlocate, hnode⟩ := find_eq_ok_iff.mp hfind
  rw [find_eq_ok_iff]
  refine ⟨location, h.grows.locate hlocate, ?_⟩
  by_contra hne
  rw [← hnode] at hne
  rcases h.changed location hne with ⟨hnone, -, -⟩ | ⟨target, htarget, bytes, hwritten, -⟩
  · rw [hnone] at hnode
    cases hnode
  · exact hother target htarget (hlocate.trans hwritten.symm)

/-! ## Stores with the same directories -/

/-- The directories of the first store are directories of the second one. -/
structure KeepsDirectories (old new : FileStore) : Prop where
  workingDir : new.workingDir = old.workingDir
  directory : ∀ location, old.node? location = some .directory →
    new.node? location = some .directory

theorem Grows.keepsDirectories (h : old.Grows new) : old.KeepsDirectories new :=
  ⟨h.workingDir, h.directory⟩

/-- A file that is put in the place of nothing or of a file takes no directory's place. -/
theorem keepsDirectories_of_put_file (h : store.node? location ≠ some .directory)
    (bytes : ByteArray) : (store.put location (.file bytes)).KeepsDirectories store := by
  have hroot : location ≠ [] := by
    rintro rfl
    exact h rfl
  refine ⟨rfl, fun other hother ↦ ?_⟩
  rw [node?_put _ _ hroot] at hother
  split at hother
  · cases hother
  · exact hother

theorem directory_of_walk {segments : List (List Char)} {place : Location}
    (hwalk : segments.foldlM store.enter place = .ok location)
    (hnode : store.node? location = some .directory) : store.node? place = some .directory := by
  cases segments with
  | nil =>
    obtain rfl := Except.ok.inj hwalk
    exact hnode
  | cons segment rest =>
    rw [List.foldlM_cons] at hwalk
    obtain ⟨next, hnext, -⟩ := bind_eq_ok_iff.mp hwalk
    exact (enter_cases hnext).1

/-- Every step to a directory is a step from directory to directory. -/
theorem KeepsDirectories.walk (h : old.KeepsDirectories new) {segments : List (List Char)}
    {place : Location} (hwalk : segments.foldlM old.enter place = .ok location)
    (hnode : old.node? location = some .directory) :
    segments.foldlM new.enter place = .ok location := by
  induction segments generalizing place with
  | nil => exact hwalk
  | cons segment rest ih =>
    rw [List.foldlM_cons] at hwalk ⊢
    obtain ⟨next, hnext, hrest⟩ := bind_eq_ok_iff.mp hwalk
    have hentered : new.enter place segment = .ok next := by
      obtain ⟨hplace, ⟨hidle, rfl⟩ | ⟨rfl, rfl⟩ | ⟨hidle, hup, hname, -, rfl⟩⟩ := enter_cases hnext
      · exact enter_idle (h.directory _ hplace) hidle
      · exact enter_up (h.directory _ hplace)
      · refine enter_name (h.directory _ hplace) hidle hup hname ?_
        rw [h.directory _ (directory_of_walk hrest hnode)]
        exact nofun
    rw [hentered, ok_bind, ih hrest]

theorem KeepsDirectories.locate (h : old.KeepsDirectories new)
    (hlocate : old.locate path = .ok location) (hnode : old.node? location = some .directory) :
    new.locate path = .ok location := by
  obtain ⟨_, hcheck, hwalk⟩ := bind_eq_ok_iff.mp hlocate
  have hstart : new.start path = old.start path := by rw [start, start, h.workingDir]
  rw [FileStore.locate, hcheck, ok_bind, hstart, h.walk hwalk hnode]

end ExportTable.FileStore
