import ExportTable.Proofs.FileStore.Writing
import ExportTable.Recipe.Build

/-!
# What a build leaves behind

A build that fails before it writes leaves the files as they are and prints nothing, and the only
failures after that are those of writing. A build that succeeds makes the way to its output
directory, writes its artifacts and changes nothing else.
-/

namespace ExportTable.Recipe

variable {recipe : Recipe} {host : Host} {α β : Type}

/-! ## Rendering does not write -/

/-- The computation does not fail as writing fails. -/
def NeverIo (x : Except BuildError α) : Prop := ∀ e, x ≠ .error (.io e)

namespace NeverIo

theorem ok (a : α) : NeverIo (.ok a : Except BuildError α) := nofun

theorem bind {x : Except BuildError α} {f : α → Except BuildError β} (hx : NeverIo x)
    (hf : ∀ a, NeverIo (f a)) : NeverIo (x >>= f) := by
  intro e h
  cases x with
  | error other => exact hx e (congrArg Except.error (Except.error.inj h))
  | ok a => exact hf a e h

theorem map {x : Except BuildError α} (hx : NeverIo x) (f : α → β) : NeverIo (x.map f) :=
  fun e h ↦ hx e (map_eq_error_iff.mp h)

theorem mapError {ε : Type} {wrap : ε → BuildError} (hwrap : ∀ fault e, wrap fault ≠ .io e)
    (x : Except ε α) : NeverIo (x.mapError wrap) := by
  intro e h
  cases x with
  | error fault => exact hwrap fault e (Except.error.inj h)
  | ok a => cases h

end NeverIo

theorem neverIo_outputDirectory : NeverIo (recipe.outputDirectory host) := by
  unfold outputDirectory
  split <;> exact nofun

theorem neverIo_readInput (files : FileStore) (path : Path) : NeverIo (readInput files path) := by
  unfold readInput
  split <;> exact nofun

theorem neverIo_typeDefinitionsText (files : FileStore) :
    NeverIo (recipe.typeDefinitionsText files) := by
  unfold typeDefinitionsText
  split
  · exact nofun
  split
  · exact neverIo_readInput files _
  · exact nofun

theorem neverIo_interface (files : FileStore) : NeverIo (recipe.interface files) := by
  unfold interface
  split
  · exact nofun
  · refine (neverIo_readInput files _).bind fun source ↦ ?_
    split
    · exact nofun
    dsimp only
    split <;> exact nofun

theorem neverIo_header (files : FileStore) : NeverIo (recipe.header files) :=
  (neverIo_typeDefinitionsText files).bind fun _ ↦ (neverIo_interface files).bind fun _ ↦ .ok _

theorem neverIo_operations (files : FileStore) : NeverIo (recipe.operations files) := by
  unfold operations
  split
  · refine (NeverIo.mapError nofun _).bind fun _ ↦ (NeverIo.mapError nofun _).bind fun _ ↦ ?_
    exact (NeverIo.mapError nofun _).bind fun _ ↦ .ok _
  · exact nofun

theorem neverIo_version : NeverIo (recipe.version host) := by
  unfold version
  split
  · exact nofun
  split <;> exact nofun

theorem neverIo_infoText : NeverIo (recipe.infoText host) :=
  ((neverIo_operations host.files).bind fun _ ↦ neverIo_version.bind fun _ ↦ .ok _).bind
    fun _ ↦ .ok _

theorem neverIo_artifacts : NeverIo (recipe.artifacts host) := by
  refine neverIo_outputDirectory.bind fun _ ↦ (neverIo_header host.files).bind fun _ ↦ ?_
  dsimp only
  split
  · exact (neverIo_infoText.map some).bind fun _ ↦ .ok _
  · exact .ok _

theorem artifacts_eq_ok_iff {artifacts : Artifacts} :
    recipe.artifacts host = .ok artifacts ↔
      recipe.outputDirectory host = .ok artifacts.directory ∧
        recipe.header host.files = .ok artifacts.header ∧
        (if recipe.hasTables then (recipe.infoText host).map some else .ok none) =
          .ok artifacts.info := by
  have hsplit : recipe.artifacts host =
      recipe.outputDirectory host >>= fun directory ↦ recipe.header host.files >>= fun header ↦
        (if recipe.hasTables then (recipe.infoText host).map some else .ok none) >>= fun info ↦
          .ok ⟨directory, header, info⟩ := by
    unfold Recipe.artifacts
    by_cases htables : recipe.hasTables
    · simp only [if_pos htables]
      rfl
    · simp only [if_neg htables]
      rfl
  rw [hsplit]
  constructor
  · intro h
    obtain ⟨directory, hdirectory, h⟩ := bind_eq_ok_iff.mp h
    obtain ⟨header, hheader, h⟩ := bind_eq_ok_iff.mp h
    obtain ⟨info, hinfo, h⟩ := bind_eq_ok_iff.mp h
    obtain rfl := Except.ok.inj h
    exact ⟨hdirectory, hheader, hinfo⟩
  · rintro ⟨hdirectory, hheader, hinfo⟩
    rw [hdirectory, ok_bind, hheader, ok_bind, hinfo, ok_bind]

/-- Both artifacts are rendered from the host as it was. -/
theorem artifacts_eq_ok {artifacts : Artifacts} (h : recipe.artifacts host = .ok artifacts) :
    recipe.outputDirectory host = .ok artifacts.directory ∧
      recipe.header host.files = .ok artifacts.header ∧
      (recipe.hasTables → (recipe.infoText host).map some = .ok artifacts.info) := by
  obtain ⟨hdirectory, hheader, hinfo⟩ := artifacts_eq_ok_iff.mp h
  refine ⟨hdirectory, hheader, fun htables ↦ ?_⟩
  rwa [if_pos htables] at hinfo

theorem isSome_info {artifacts : Artifacts} (h : recipe.artifacts host = .ok artifacts) :
    artifacts.info.isSome = recipe.hasTables := by
  obtain ⟨-, -, hinfo⟩ := artifacts_eq_ok_iff.mp h
  split at hinfo
  · next htables =>
    obtain ⟨text, -, htext⟩ := map_eq_ok_iff.mp hinfo
    rw [htables, ← htext]
    rfl
  · next htables =>
    rw [← Except.ok.inj hinfo, Bool.eq_false_iff.mpr htables]
    rfl

/-- With an output directory, rendering fails with the header, or else with the info artifact. -/
theorem artifacts_eq_error {e : BuildError} {directory : Path}
    (hdirectory : recipe.outputDirectory host = .ok directory)
    (h : recipe.artifacts host = .error e) :
    recipe.header host.files = .error e ∨
      (∃ header, recipe.header host.files = .ok header) ∧ recipe.infoText host = .error e := by
  unfold artifacts at h
  rw [hdirectory, ok_bind] at h
  rcases bind_eq_error_iff.mp h with hheader | ⟨header, hheader, h⟩
  · exact .inl hheader
  · refine .inr ⟨⟨header, hheader⟩, ?_⟩
    dsimp only at h
    split at h
    · rcases bind_eq_error_iff.mp h with hinfo | ⟨_, _, hdone⟩
      · exact map_eq_error_iff.mp hinfo
      · cases hdone
    · cases h

/-! ## Writing the artifacts -/

/-- Writing succeeds with the directory there and with every artifact written to its path. -/
theorem writeArtifacts_eq_ok_iff {files new : FileStore} {artifacts : Artifacts} {output : Output} :
    recipe.writeArtifacts files artifacts = (new, .ok output) ↔
      ∃ created headed, files.createAll artifacts.directory = (created, .ok ()) ∧
        created.writeText (artifacts.directory.join recipe.headerName) artifacts.header =
          .ok headed ∧
        (artifacts.info = none ∧ new = headed ∧
            output = ⟨artifacts.directory.join recipe.headerName, none⟩ ∨
          ∃ info, artifacts.info = some info ∧
            headed.writeText (artifacts.directory.join recipe.format.fileName) info = .ok new ∧
            output = ⟨artifacts.directory.join recipe.headerName,
              some (artifacts.directory.join recipe.format.fileName)⟩) := by
  unfold writeArtifacts
  constructor
  · intro h
    split at h
    · cases h
    next created hcreated =>
    dsimp only at h
    split at h
    · cases h
    next headed hheaded =>
    refine ⟨created, headed, hcreated, hheaded, ?_⟩
    split at h
    · next hnone =>
      cases h
      exact .inl ⟨hnone, rfl, rfl⟩
    next info hinfo =>
    split at h
    · cases h
    next hwritten =>
    cases h
    exact .inr ⟨info, hinfo, hwritten, rfl⟩
  · rintro ⟨created, headed, hcreated, hheaded, ⟨hinfo, rfl, rfl⟩ | ⟨info, hinfo, hwritten, rfl⟩⟩
    · simp only [hcreated, hheaded, hinfo]
    · simp only [hcreated, hheaded, hinfo, hwritten]

theorem delivers_writeArtifacts {files new : FileStore} {artifacts : Artifacts} {output : Output}
    (h : recipe.writeArtifacts files artifacts = (new, .ok output)) :
    files.Delivers artifacts.directory (output.headerPath :: output.infoPath.toList) new := by
  have hdirectories := files.delivers_createAll artifacts.directory
  obtain ⟨created, headed, hcreated, hheaded, hlast⟩ := writeArtifacts_eq_ok_iff.mp h
  rw [hcreated] at hdirectories
  have hheader := hdirectories.trans (FileStore.delivers_writeBytes hheaded _)
  obtain ⟨-, rfl, rfl⟩ | ⟨info, -, hwritten, rfl⟩ := hlast
  · exact hheader
  · exact hheader.trans (FileStore.delivers_writeBytes hwritten _)

/-! ## Builds -/

/-- The info artifact was not written over the header. -/
def Output.Apart (output : Output) (files : FileStore) : Prop :=
  ∀ infoPath, output.infoPath = some infoPath →
    files.locate infoPath ≠ files.locate output.headerPath

/-- A build fails to render, fails to write, or succeeds. -/
theorem build_cases (recipe : Recipe) (host : Host) :
    (∃ fault, recipe.artifacts host = .error fault ∧
      recipe.build host = ⟨host.files, "", .error fault⟩) ∨
    ∃ artifacts files, recipe.artifacts host = .ok artifacts ∧
      ((∃ e, recipe.writeArtifacts host.files artifacts = (files, .error e) ∧
        recipe.build host = ⟨files, "", .error (.io e)⟩) ∨
      ∃ output, recipe.writeArtifacts host.files artifacts = (files, .ok output) ∧
        recipe.build host = ⟨files, recipe.announcements host, .ok output⟩) := by
  unfold build
  cases hartifacts : recipe.artifacts host with
  | error fault => exact .inl ⟨fault, rfl, rfl⟩
  | ok artifacts =>
    right
    cases hwrite : recipe.writeArtifacts host.files artifacts with
    | mk files result =>
      refine ⟨artifacts, files, rfl, ?_⟩
      cases result with
      | error e => exact .inl ⟨e, hwrite, by simp only [hwrite]⟩
      | ok output => exact .inr ⟨output, hwrite, by simp only [hwrite]⟩

theorem build_of_written {artifacts : Artifacts} {files : FileStore} {output : Output}
    (hartifacts : recipe.artifacts host = .ok artifacts)
    (hwrite : recipe.writeArtifacts host.files artifacts = (files, .ok output)) :
    recipe.build host = ⟨files, recipe.announcements host, .ok output⟩ := by
  simp only [build, hartifacts, hwrite]

theorem build_eq_ok {output : Output} (h : (recipe.build host).result = .ok output) :
    ∃ artifacts, recipe.artifacts host = .ok artifacts ∧
      recipe.writeArtifacts host.files artifacts = ((recipe.build host).files, .ok output) ∧
      (recipe.build host).printed = recipe.announcements host := by
  obtain ⟨fault, -, hbuild⟩ | ⟨artifacts, files, hartifacts, hwritten⟩ := build_cases recipe host
  · rw [hbuild] at h
    cases h
  obtain ⟨e, -, hbuild⟩ | ⟨written, hwrite, hbuild⟩ := hwritten
  · rw [hbuild] at h
    cases h
  · rw [hbuild] at h ⊢
    obtain rfl := Except.ok.inj h
    exact ⟨artifacts, hartifacts, hwrite, rfl⟩

/-- A build that fails otherwise than in writing changes and prints nothing. One that fails in
writing would have rendered its artifacts. One that succeeds makes directories on the way to the
output directory and writes the files of its output, and changes nothing else. -/
theorem build_leaves (recipe : Recipe) (host : Host) :
    match (recipe.build host).result with
    | .error (.io _) => (recipe.build host).printed = "" ∧
        (∃ text, recipe.header host.files = .ok text) ∧
        (recipe.hasTables → ∃ text, recipe.infoText host = .ok text)
    | .error _ => (recipe.build host).files = host.files ∧ (recipe.build host).printed = ""
    | .ok output => ∃ directory, recipe.outputDirectory host = .ok directory ∧
        host.files.Delivers directory (output.headerPath :: output.infoPath.toList)
          (recipe.build host).files := by
  obtain ⟨fault, hfault, hbuild⟩ | ⟨artifacts, files, hartifacts, hwritten⟩ :=
    build_cases recipe host
  · rw [hbuild]
    cases fault with
    | io e => exact absurd hfault (neverIo_artifacts e)
    | _ => exact ⟨rfl, rfl⟩
  obtain ⟨hdirectory, hheader, hinfo⟩ := artifacts_eq_ok hartifacts
  obtain ⟨e, -, hbuild⟩ | ⟨output, hwrite, hbuild⟩ := hwritten
  · rw [hbuild]
    refine ⟨rfl, ⟨_, hheader⟩, fun htables ↦ ?_⟩
    obtain ⟨text, htext, -⟩ := map_eq_ok_iff.mp (hinfo htables)
    exact ⟨text, htext⟩
  · rw [hbuild]
    exact ⟨_, hdirectory, delivers_writeArtifacts hwrite⟩

/-- The output directory and the one above it are missing. -/
def deepRecipe : Recipe where
  providerSource := some "api.c"
  typeDefinitions := some "types.h"
  outDir := some "out/include/"

def plainHost : Host where
  files := ⟨[(["api.c"], .file "static int BhAPI_f(void) \x7b \x7d".toUTF8),
    (["types.h"], .file "typedef int t;\n".toUTF8)], []⟩
  program? := fun _ ↦ none
  outDir? := none

/-- The tables are there and hold nothing. -/
def tablesHost : Host :=
  { plainHost with
    files := (plainHost.files.put ["opcodes.json"] (.file "[]".toUTF8)).put ["types.json"]
      (.file "[]".toUTF8) }

theorem build_leaves_deepRecipe :
    (deepRecipe.build plainHost).result = .ok ⟨"out/include/bohrium_api.h", none⟩ ∧
      plainHost.files.Delivers "out/include/" ["out/include/bohrium_api.h"]
        (deepRecipe.build plainHost).files ∧
      plainHost.files.node? ["out"] = none ∧
      (deepRecipe.build plainHost).files.node? ["out"] = some .directory := by
  have hresult : (deepRecipe.build plainHost).result =
      .ok ⟨"out/include/bohrium_api.h", none⟩ := by
    decide +kernel
  have hleaves := build_leaves deepRecipe plainHost
  rw [hresult] at hleaves
  obtain ⟨directory, hdirectory, hdelivers⟩ := hleaves
  obtain rfl : "out/include/" = directory := Except.ok.inj hdirectory
  exact ⟨hresult, hdelivers, by decide +kernel, by decide +kernel⟩

end ExportTable.Recipe
