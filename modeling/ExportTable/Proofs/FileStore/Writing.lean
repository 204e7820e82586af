import ExportTable.Proofs.FileStore.Growth

/-!
# What writing changes

Writing a file and creating a directory put one node where the path leads afterwards. Creating a
directory with those above it makes directories on the way of its path only, also where it fails.
There are fewer directories above a path than it has segments, so the bound on their number never
matters.
-/

namespace ExportTable.FileStore

variable {store new : FileStore} {path : Path}

/-! ## Targets -/

/-- What is created has a last segment, and the way to it is the start of the path, unless the path
names the directory that it starts from. -/
theorem creationSegments_eq_concat (path : Path) :
    ∃ init last, creationSegments path = init ++ [last] ∧ last ≠ [] ∧
      (init ++ [last] <+: path.segments ∨ init = [] ∧ last = ['.']) := by
  unfold creationSegments
  split
  · exact ⟨[], ['.'], rfl, by decide, .inr ⟨rfl, rfl⟩⟩
  · next hne =>
    have hway : (path.segments.reverse.dropWhile (· = [])).reverse <+: path.segments := by
      rw [← List.reverse_suffix, List.reverse_reverse]
      exact List.dropWhile_suffix _
    cases hkept : path.segments.reverse.dropWhile (· = []) with
    | nil => exact absurd (by rw [hkept, List.reverse_nil]) hne
    | cons last kept =>
      have hlast : last ≠ [] := by
        have hhead := List.head?_dropWhile_not (· = []) path.segments.reverse
        rw [hkept] at hhead
        simpa using hhead
      rw [hkept, List.reverse_cons] at hway
      exact ⟨kept.reverse, last, List.reverse_cons, hlast, .inl hway⟩

theorem creationSegments_of_getLast? (h : path.segments.getLast? ≠ some []) :
    creationSegments path = path.segments := by
  have hkept : (path.segments.reverse.dropWhile (· = [])).reverse = path.segments := by
    obtain ⟨init, last, hsegments⟩ :=
      (List.eq_nil_or_concat' path.segments).resolve_left path.segments_ne_nil
    rw [hsegments] at h ⊢
    have hlast : last ≠ [] := by
      rintro rfl
      exact h List.getLast?_concat
    simp [hlast]
  unfold creationSegments
  rw [hkept]
  split
  · next hnil => exact absurd hnil path.segments_ne_nil
  · rfl

/-- The target of a path, with the way to its directory. -/
theorem target_eq_ok {t : Target} (h : store.target path = .ok t) :
    checkPath path = .ok () ∧
      (creationSegments path).dropLast.foldlM store.enter (store.start path) = .ok t.parent ∧
      store.node? t.parent = some .directory ∧
      t.name = String.ofList ((creationSegments path).getLastD []) ∧
      (t.slashed ↔ path.toList.getLast? = some '/') := by
  obtain ⟨_, hcheck, h⟩ := bind_eq_ok_iff.mp h
  obtain ⟨parent, hparent, h⟩ := bind_eq_ok_iff.mp h
  split at h
  · next hdirectory =>
    obtain rfl := Except.ok.inj h
    exact ⟨hcheck, hparent, hdirectory, rfl, by simp⟩
  · cases h

/-- Once a node stands at the target, the path leads to it. -/
theorem walk_put_target {t : Target} (h : store.target path = .ok t) (hspecial : ¬ t.isSpecial)
    (hname : checkName t.name = .ok ()) (hfree : store.node? t.location ≠ some .directory)
    (node : Node) :
    creationSegments path <+: path.segments ∧
      (creationSegments path).foldlM (store.put t.location node).enter
        ((store.put t.location node).start path) = .ok t.location := by
  have hgrows : store.Grows (store.put t.location node) := Grows.put hfree node
  have hpresent : (store.put t.location node).node? t.location ≠ none := by
    rw [node?_put _ _ (by simp [Target.location]), if_pos rfl]
    exact nofun
  obtain ⟨-, hparent, hdirectory, hlast, -⟩ := target_eq_ok h
  obtain ⟨init, last, hsegments, hne, hway⟩ := creationSegments_eq_concat path
  rw [hsegments, List.getLastD_concat] at hlast
  rw [hsegments, List.dropLast_concat] at hparent
  have hdot : last ≠ ['.'] ∧ last ≠ ['.', '.'] := by
    constructor
    all_goals
      rintro rfl
      exact hspecial (by rw [Target.isSpecial, hlast]; decide)
  -- So the last step looks the name up, and it is there now.
  have hidle : ¬ Path.isIdle last := by simp [Path.isIdle, hne, hdot.1]
  have hlocation : t.location = t.parent ++ [String.ofList last] := by rw [Target.location, hlast]
  rw [hlast] at hname
  rw [hlocation] at hgrows hpresent ⊢
  refine ⟨hsegments ▸ hway.resolve_right fun hstart ↦ hdot.1 hstart.2, ?_⟩
  rw [hsegments, List.foldlM_append, hgrows.start, hgrows.walk hparent, ok_bind,
    List.foldlM_cons, enter_name (hgrows.directory _ hdirectory) hidle hdot.2 hname hpresent,
    ok_bind]
  rfl

/-! ## One node -/

theorem writeBytes_of_target {t : Target} (h : store.target path = .ok t) (bytes : ByteArray) :
    store.writeBytes path bytes =
      if t.isSpecial ∨ t.slashed then .error .isDirectory
      else checkName t.name >>= fun _ ↦
        if store.node? t.location = some .directory then .error .isDirectory
        else .ok (store.put t.location (.file bytes)) := by
  rw [writeBytes, h, ok_bind]
  by_cases hplain : t.isSpecial ∨ t.slashed
  · simp only [if_pos hplain]
    rfl
  · simp only [if_neg hplain]
    congr 1
    funext _
    cases store.node? t.location with
    | none => rfl
    | some node => cases node <;> rfl

theorem writeBytes_eq_ok_iff {bytes : ByteArray} :
    store.writeBytes path bytes = .ok new ↔
      ∃ t, store.target path = .ok t ∧ ¬ (t.isSpecial ∨ t.slashed) ∧ checkName t.name = .ok () ∧
        store.node? t.location ≠ some .directory ∧ new = store.put t.location (.file bytes) := by
  constructor
  · intro h
    obtain ⟨t, htarget, _⟩ := bind_eq_ok_iff.mp h
    rw [writeBytes_of_target htarget] at h
    split at h
    · cases h
    next hplain =>
    obtain ⟨_, hname, h⟩ := bind_eq_ok_iff.mp h
    split at h
    · cases h
    next hfile => exact ⟨t, htarget, hplain, hname, hfile, (Except.ok.inj h).symm⟩
  · rintro ⟨t, htarget, hplain, hname, hfile, rfl⟩
    rw [writeBytes_of_target htarget, if_neg hplain, hname, ok_bind, if_neg hfile]

/-- A path without a slash at its end leads to what was put at its target. -/
theorem locate_put_target {t : Target} (h : store.target path = .ok t)
    (hplain : ¬ (t.isSpecial ∨ t.slashed)) (hname : checkName t.name = .ok ())
    (hfree : store.node? t.location ≠ some .directory) (node : Node) :
    (store.put t.location node).locate path = .ok t.location := by
  obtain ⟨hspecial, hslashed⟩ := not_or.mp hplain
  obtain ⟨hcheck, -, -, -, hslash⟩ := target_eq_ok h
  have hlast : path.segments.getLast? ≠ some [] := fun hlast ↦ by
    rcases Path.eq_of_getLast?_segments hlast with rfl | hlast
    · cases hcheck
    · exact hslashed (hslash.mpr hlast)
  obtain ⟨-, hwalk⟩ := walk_put_target h hspecial hname hfree node
  rw [creationSegments_of_getLast? hlast] at hwalk
  rw [locate, hcheck, ok_bind, hwalk]

/-- A path that a file was written to leads to this file. -/
theorem writeBytes_eq_ok {bytes : ByteArray} (h : store.writeBytes path bytes = .ok new) :
    ∃ location, new = store.put location (.file bytes) ∧
      store.node? location ≠ some .directory ∧ new.locate path = .ok location := by
  obtain ⟨t, htarget, hplain, hname, hfile, rfl⟩ := writeBytes_eq_ok_iff.mp h
  exact ⟨t.location, rfl, hfile, locate_put_target htarget hplain hname hfile _⟩

theorem createDirectory_of_target {t : Target} (h : store.target path = .ok t) :
    store.createDirectory path =
      if t.isSpecial then .error .alreadyExists
      else checkName t.name >>= fun _ ↦
        if store.node? t.location = none then .ok (store.put t.location .directory)
        else .error .alreadyExists := by
  rw [createDirectory, h, ok_bind]
  by_cases hspecial : t.isSpecial
  · simp only [if_pos hspecial]
    rfl
  · simp only [if_neg hspecial]
    congr 1
    funext _
    cases store.node? t.location <;> rfl

theorem createDirectory_eq_ok_iff :
    store.createDirectory path = .ok new ↔
      ∃ t, store.target path = .ok t ∧ ¬ t.isSpecial ∧ checkName t.name = .ok () ∧
        store.node? t.location = none ∧ new = store.put t.location .directory := by
  constructor
  · intro h
    obtain ⟨t, htarget, _⟩ := bind_eq_ok_iff.mp h
    rw [createDirectory_of_target htarget] at h
    split at h
    · cases h
    next hspecial =>
    obtain ⟨_, hname, h⟩ := bind_eq_ok_iff.mp h
    split at h
    · next hnone => exact ⟨t, htarget, hspecial, hname, hnone, (Except.ok.inj h).symm⟩
    · cases h
  · rintro ⟨t, htarget, hspecial, hname, hnone, rfl⟩
    rw [createDirectory_of_target htarget, if_neg hspecial, hname, ok_bind, if_pos hnone]

/-- A directory is created where there was nothing, on the way of the path. -/
theorem createDirectory_eq_ok (h : store.createDirectory path = .ok new) :
    ∃ location, new = store.put location .directory ∧
      store.node? location = none ∧ new.Passes path location := by
  obtain ⟨t, htarget, hspecial, hname, hnone, rfl⟩ := createDirectory_eq_ok_iff.mp h
  have hfree : store.node? t.location ≠ some .directory := by
    rw [hnone]
    exact nofun
  obtain ⟨hway, hwalk⟩ := walk_put_target htarget hspecial hname hfree .directory
  exact ⟨t.location, rfl, hnone, _, hway, hwalk⟩

/-! ## All that is new -/

/-- The new store has further directories on the way of one path and files where other paths lead
to, and it is the same elsewhere. -/
structure Delivers (old : FileStore) (directory : Path) (written : List Path) (new : FileStore) :
    Prop where
  grows : old.Grows new
  changed : ∀ location, new.node? location ≠ old.node? location →
    (old.node? location = none ∧ new.node? location = some .directory ∧
      new.Passes directory location) ∨
    ∃ path ∈ written, ∃ bytes, new.locate path = .ok location ∧
      new.node? location = some (.file bytes)

namespace Delivers

variable {old middle : FileStore} {directory parent : Path} {written later : List Path}

protected theorem rfl : old.Delivers directory [] old := ⟨Grows.rfl, fun _ h ↦ absurd rfl h⟩

theorem trans (h : old.Delivers directory written middle)
    (h' : middle.Delivers directory later new) : old.Delivers directory (written ++ later) new := by
  refine ⟨h.grows.trans h'.grows, fun location hne ↦ ?_⟩
  by_cases hmiddle : new.node? location = middle.node? location
  · rw [hmiddle] at hne ⊢
    rcases h.changed location hne with ⟨hnone, hdirectory, hpasses⟩ | ⟨path, hpath, bytes, hwritten⟩
    · exact .inl ⟨hnone, hdirectory, h'.grows.passes hpasses⟩
    · exact .inr ⟨path, List.mem_append_left _ hpath, bytes, h'.grows.locate hwritten.1, hwritten.2⟩
  · rcases h'.changed location hmiddle with ⟨hnone, hcreated⟩ | ⟨path, hpath, hwritten⟩
    · have hold : old.node? location = none := by
        by_contra hpresent
        exact h.grows.present location hpresent hnone
      exact .inl ⟨hold, hcreated⟩
    · exact .inr ⟨path, List.mem_append_right _ hpath, hwritten⟩

/-- Directories on the way to the parent are on the way. -/
theorem of_parent (hparent : path.parent? = some parent) (h : old.Delivers parent [] new) :
    old.Delivers path [] new := by
  refine ⟨h.grows, fun location hne ↦ ?_⟩
  rcases h.changed location hne with ⟨hnone, hdirectory, hpasses⟩ | ⟨_, hmem, _⟩
  · exact .inl ⟨hnone, hdirectory, hpasses.of_parent hparent⟩
  · cases hmem

/-- Only the place of a new node changes. -/
theorem put {location : Location} {node : Node} (hfree : old.node? location ≠ some .directory)
    (h : (old.node? location = none ∧ node = .directory ∧
        (old.put location node).Passes directory location) ∨
      ∃ path ∈ written, ∃ bytes, (old.put location node).locate path = .ok location ∧
        node = .file bytes) :
    old.Delivers directory written (old.put location node) := by
  have hroot : location ≠ [] := by
    rintro rfl
    exact hfree rfl
  refine ⟨Grows.put hfree node, fun other hne ↦ ?_⟩
  rw [node?_put _ _ hroot] at hne ⊢
  split at hne
  · next heq =>
    obtain rfl := heq
    simpa using h
  · exact absurd rfl hne

end Delivers

theorem delivers_writeBytes {bytes : ByteArray} (h : store.writeBytes path bytes = .ok new)
    (directory : Path) : store.Delivers directory [path] new := by
  obtain ⟨location, rfl, hfree, hlocate⟩ := writeBytes_eq_ok h
  exact .put hfree (.inr ⟨path, List.mem_singleton_self path, bytes, hlocate, rfl⟩)

theorem delivers_createDirectory (h : store.createDirectory path = .ok new) :
    store.Delivers path [] new := by
  obtain ⟨location, rfl, hnone, hpasses⟩ := createDirectory_eq_ok h
  have hfree : store.node? location ≠ some .directory := by
    rw [hnone]
    exact nofun
  exact .put hfree (.inl ⟨hnone, rfl, hpasses⟩)

theorem delivers_ensureDirectory (store : FileStore) (path : Path) :
    store.Delivers path [] (store.ensureDirectory path).1 := by
  unfold ensureDirectory
  split
  · next h => exact delivers_createDirectory h
  · exact .rfl

/-- The directories that were made stay where a later one fails. -/
theorem delivers_createAllWithin (fuel : Nat) (store : FileStore) (path : Path) :
    store.Delivers path [] (createAllWithin fuel store path).1 := by
  induction fuel generalizing store path with
  | zero => exact .rfl
  | succ fuel ih =>
    unfold createAllWithin
    split
    · exact .rfl
    split
    · split
      · exact .rfl
      next parent hparent =>
      have hparents := (ih store parent).of_parent hparent
      split
      · next heq =>
        rw [heq] at hparents
        exact hparents.trans (delivers_ensureDirectory _ path)
      · exact hparents
    · exact delivers_ensureDirectory store path

theorem delivers_createAll (store : FileStore) (path : Path) :
    store.Delivers path [] (store.createAll path).1 :=
  delivers_createAllWithin _ store path

/-! ## Enough fuel -/

/-- There is fuel for the path and for all that lies above it. -/
def Suffices (fuel : Nat) (path : Path) : Prop :=
  0 < fuel ∧ (path.parent? = none ∨ path.segments.length < fuel)

theorem Suffices.parent {fuel : Nat} {parent : Path} (h : Suffices (fuel + 1) path)
    (hparent : path.parent? = some parent) : Suffices fuel parent := by
  have hlength : path.segments.length < fuel + 1 := by
    apply h.2.resolve_left
    rw [hparent]
    exact Option.some_ne_none parent
  have hpositive := List.length_pos_iff.mpr path.segments_ne_nil
  refine ⟨by omega, ?_⟩
  rcases Path.length_segments_parent hparent with rfl | rfl | hlt
  · exact .inl rfl
  · exact .inl rfl
  · exact .inr (by omega)

theorem suffices_length (path : Path) : Suffices (path.segments.length + 1) path :=
  ⟨Nat.succ_pos _, .inr (Nat.lt_succ_self _)⟩

theorem createAllWithin_congr {fuel other : Nat} (h : Suffices fuel path)
    (hother : Suffices other path) (store : FileStore) :
    createAllWithin fuel store path = createAllWithin other store path := by
  induction fuel generalizing path other with
  | zero => cases h.1
  | succ fuel ih =>
    cases other with
    | zero => cases hother.1
    | succ other =>
      rw [createAllWithin, createAllWithin]
      split
      · rfl
      split
      · split
        · rfl
        · next parent hparent => rw [ih (h.parent hparent) (hother.parent hparent)]
      · rfl

/-- Where the directory above is missing, it is created in the same way first. -/
theorem createAll_of_missing {parent : Path}
    (hmissing : store.createDirectory path = .error .noSuchFile)
    (hparent : path.parent? = some parent) :
    store.createAll path =
      match store.createAll parent with
      | (created, .ok ()) => created.ensureDirectory path
      | failed => failed := by
  have hpath : path ≠ "" := by
    rintro rfl
    cases hparent
  rw [createAll, createAllWithin, if_neg hpath, hmissing]
  dsimp only
  rw [hparent]
  dsimp only
  rw [createAllWithin_congr ((suffices_length path).parent hparent) (suffices_length parent)]
  rfl

end ExportTable.FileStore
