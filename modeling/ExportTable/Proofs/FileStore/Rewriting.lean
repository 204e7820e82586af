import ExportTable.Proofs.FileStore.Reading

/-!
# Writing again

What was written is written again with the same outcome: a file replaces itself, and a directory that
was created with those above it is there already. So two files at different places, written once more
in the same order, leave the store exactly as it was.
-/

namespace ExportTable.FileStore

variable {store new later : FileStore} {path : Path} {location other : Location} {node : Node}

/-! ## Nodes -/

theorem put_put (store : FileStore) (location : Location) (old node : Node) :
    (store.put location old).put location node = store.put location node := by
  simp [put, List.filter_filter]

/-- Two nodes that are put again in the same order restore the store. -/
theorem put_put_again (h : other ≠ location) (store : FileStore) (first second : Node) :
    (((store.put location first).put other second).put location first).put other second =
      (store.put location first).put other second := by
  let apart (entry : Location × Node) : Bool := entry.1 ≠ other && entry.1 ≠ location
  have hboth (store : FileStore) : (store.put location first).put other second =
      ⟨(other, second) :: (location, first) :: store.nodes.filter apart, store.workingDir⟩ := by
    simp [put, apart, h.symm, List.filter_filter]
  have hagain : ((other, second) :: (location, first) :: store.nodes.filter apart).filter apart =
      store.nodes.filter apart := by
    rw [List.filter_cons_of_neg (by simp [apart]), List.filter_cons_of_neg (by simp [apart]),
      List.filter_filter]
    simp only [Bool.and_self]
  rw [hboth, hboth, hagain]

/-! ## Directories -/

/-- Where a directory is to be created again, its target is there. -/
theorem createDirectory_of_isDirectory (h : store.isDirectory path) :
    store.createDirectory path = .error .alreadyExists := by
  obtain ⟨location, hlocate, hnode⟩ := find_eq_ok_iff.mp (isDirectory_iff.mp h)
  obtain ⟨_, hcheck, hwalk⟩ := bind_eq_ok_iff.mp hlocate
  obtain ⟨init, last, hsegments, hne, hway⟩ := creationSegments_eq_concat path
  have htarget {parent : Location}
      (hparent : init.foldlM store.enter (store.start path) = .ok parent)
      (hdirectory : store.node? parent = some .directory) :
      store.target path =
        .ok ⟨parent, String.ofList last, path.toList.getLast? = some '/'⟩ := by
    unfold target
    rw [hcheck, ok_bind, hsegments]
    dsimp only
    rw [List.dropLast_concat, List.getLastD_concat, hparent, ok_bind, if_pos hdirectory]
    rfl
  have hspecial {t : Target} (hname : t.name = "." ∨ t.name = "..") : t.isSpecial := by
    simpa [Target.isSpecial] using hname
  rcases hway with ⟨rest, hrest⟩ | ⟨rfl, rfl⟩
  · rw [← hrest, List.foldlM_append, List.foldlM_append] at hwalk
    obtain ⟨entered, hlast, -⟩ := bind_eq_ok_iff.mp hwalk
    obtain ⟨parent, hparent, hlast⟩ := bind_eq_ok_iff.mp hlast
    obtain ⟨found, hentered, hend⟩ := bind_eq_ok_iff.mp hlast
    obtain ⟨hdirectory, hstep⟩ := enter_cases hentered
    rw [createDirectory_of_target (htarget hparent hdirectory)]
    rcases hstep with ⟨hidle, -⟩ | ⟨rfl, -⟩ | ⟨-, -, hname, hpresent, rfl⟩
    · obtain rfl : last = ['.'] := by simpa [Path.isIdle, hne] using hidle
      exact if_pos (hspecial (.inl rfl))
    · exact if_pos (hspecial (.inr rfl))
    · split
      · rfl
      · rw [hname, ok_bind]
        exact if_neg hpresent
  · rw [createDirectory_of_target (htarget rfl (directory_of_walk hwalk hnode))]
    exact if_pos (hspecial (.inl rfl))

theorem createAll_of_isDirectory (h : store.isDirectory path) :
    store.createAll path = (store, .ok ()) := by
  have hcreate := createDirectory_of_isDirectory h
  have hensure : store.ensureDirectory path = (store, .ok ()) := by
    unfold ensureDirectory
    rw [hcreate]
    exact congrArg (Prod.mk store) (if_pos h)
  unfold createAll createAllWithin
  split
  · rfl
  · rw [hcreate]
    exact hensure

theorem walk_empty {segments : List (List Char)} {place : Location}
    (hplace : store.node? place = some .directory) (hempty : ∀ segment ∈ segments, segment = []) :
    segments.foldlM store.enter place = .ok place := by
  induction segments with
  | nil => rfl
  | cons segment rest ih =>
    obtain ⟨rfl, hrest⟩ := List.forall_mem_cons.mp hempty
    rw [List.foldlM_cons, enter_idle hplace rfl, ok_bind, ih hrest]

/-- Only slashes stand after the segments that are created. -/
theorem exists_segments_eq (h : creationSegments path <+: path.segments) :
    ∃ slashes, path.segments = creationSegments path ++ slashes ∧
      ∀ segment ∈ slashes, segment = [] := by
  have hsplit : path.segments = (path.segments.reverse.dropWhile (· = [])).reverse ++
      (path.segments.reverse.takeWhile (· = [])).reverse := by
    rw [← List.reverse_append, List.takeWhile_append_dropWhile, List.reverse_reverse]
  have hslashes : ∀ segment ∈ (path.segments.reverse.takeWhile (· = [])).reverse, segment = [] := by
    intro segment hmem
    have hall : (path.segments.reverse.takeWhile (· = [])).all (· = []) := List.all_takeWhile
    exact of_decide_eq_true (List.all_eq_true.mp hall segment (List.mem_reverse.mp hmem))
  unfold creationSegments at h ⊢
  split at h
  · next hnil =>
    rw [hnil, List.nil_append] at hsplit
    rw [← hsplit] at hslashes
    exact absurd (hslashes _ (h.subset (List.mem_singleton_self _))) (by decide)
  · exact ⟨_, hsplit, hslashes⟩

/-- A directory that was created is there. -/
theorem isDirectory_of_createDirectory (h : store.createDirectory path = .ok new) :
    new.isDirectory path := by
  obtain ⟨t, htarget, hspecial, hname, hnone, rfl⟩ := createDirectory_eq_ok_iff.mp h
  have hfree : store.node? t.location ≠ some .directory := by
    rw [hnone]
    exact nofun
  obtain ⟨hcheck, -⟩ := target_eq_ok htarget
  obtain ⟨hway, hwalk⟩ := walk_put_target htarget hspecial hname hfree .directory
  obtain ⟨slashes, hsegments, hslashes⟩ := exists_segments_eq hway
  have hnode : (store.put t.location .directory).node? t.location = some .directory := by
    rw [node?_put _ _ (by simp [Target.location]), if_pos rfl]
  rw [isDirectory_iff, find_eq_ok_iff]
  refine ⟨t.location, ?_, hnode⟩
  rw [locate, hcheck, ok_bind, hsegments, List.foldlM_append, hwalk, ok_bind,
    walk_empty hnode hslashes]

theorem isDirectory_of_ensureDirectory (h : store.ensureDirectory path = (new, .ok ())) :
    new.isDirectory path := by
  unfold ensureDirectory at h
  split at h
  · next hcreate =>
    cases h
    exact isDirectory_of_createDirectory hcreate
  · split at h
    · next hdirectory =>
      cases h
      exact hdirectory
    · cases h

theorem isDirectory_of_createAll (h : store.createAll path = (new, .ok ())) :
    path = "" ∨ new.isDirectory path := by
  unfold createAll createAllWithin at h
  split at h
  · next hempty => exact .inl hempty
  right
  split at h
  · split at h
    · cases h
    split at h
    · exact isDirectory_of_ensureDirectory h
    · next hfailed => exact absurd h fun heq ↦ hfailed _ (by rw [heq])
  · exact isDirectory_of_ensureDirectory h

/-- A directory that was created with those above it is there also after further writing. -/
theorem createAll_again (h : store.createAll path = (new, .ok ())) (hgrows : new.Grows later) :
    later.createAll path = (later, .ok ()) := by
  rcases isDirectory_of_createAll h with rfl | hdirectory
  · rfl
  · apply createAll_of_isDirectory
    rw [isDirectory_iff, find_eq_ok_iff] at hdirectory ⊢
    obtain ⟨location, hlocate, hnode⟩ := hdirectory
    exact ⟨location, hgrows.locate hlocate, hgrows.directory location hnode⟩

/-! ## Files -/

theorem target_of_grows {t : Target} (h : store.target path = .ok t) (hgrows : store.Grows later) :
    later.target path = .ok t := by
  obtain ⟨hcheck, hparent, hdirectory, hname, hslashed⟩ := target_eq_ok h
  have hslash : t.slashed = decide (path.toList.getLast? = some '/') := by
    rw [Bool.eq_iff_iff, hslashed, decide_eq_true_iff]
  unfold target
  rw [hcheck, ok_bind]
  dsimp only
  rw [hgrows.start, hgrows.walk hparent, ok_bind, if_pos (hgrows.directory _ hdirectory), ← hname,
    ← hslash]
  rfl

/-- A file is written to the same place again. -/
theorem exists_writeBytes_again {bytes : ByteArray} (h : store.writeBytes path bytes = .ok new) :
    ∃ location, new = store.put location (.file bytes) ∧
      store.node? location ≠ some .directory ∧ new.locate path = .ok location ∧
      ∀ later, store.Grows later → later.node? location ≠ some .directory →
        later.writeBytes path bytes = .ok (later.put location (.file bytes)) := by
  obtain ⟨t, htarget, hplain, hname, hfile, rfl⟩ := writeBytes_eq_ok_iff.mp h
  refine ⟨t.location, rfl, hfile, locate_put_target htarget hplain hname hfile _, ?_⟩
  intro later hgrows hlater
  exact writeBytes_eq_ok_iff.mpr ⟨t, target_of_grows htarget hgrows, hplain, hname, hlater, rfl⟩

end ExportTable.FileStore
