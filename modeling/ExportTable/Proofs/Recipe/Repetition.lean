import ExportTable.Proofs.FileStore.Rewriting
import ExportTable.Proofs.Recipe.Inputs

/-!
# Building again

A build that succeeds leaves its inputs as they were, if none of its artifacts went to the place of
one. Then the same build on what it has left renders the same artifacts, finds its directories there,
and writes the same files once more: nothing changes.
-/

namespace ExportTable.Recipe

variable {recipe : Recipe} {host : Host} {output : Output}

/-! ## Writing -/

theorem node?_put_file {store : FileStore} {location other : Location}
    (hfree : store.node? location ≠ some .directory) (hother : store.node? other ≠ some .directory)
    (bytes : ByteArray) : (store.put location (.file bytes)).node? other ≠ some .directory :=
  mt ((FileStore.keepsDirectories_of_put_file hfree bytes).directory other) hother

/-- Artifacts that went to different places are written again with the same outcome. -/
theorem writeArtifacts_again {files new : FileStore} {artifacts : Artifacts}
    (h : recipe.writeArtifacts files artifacts = (new, .ok output))
    (hapart : output.Apart new) : recipe.writeArtifacts new artifacts = (new, .ok output) := by
  obtain ⟨created, headed, hcreated, hheaded, hlast⟩ := writeArtifacts_eq_ok_iff.mp h
  obtain ⟨place, rfl, hfree, hlocate, hagain⟩ := FileStore.exists_writeBytes_again hheaded
  have hheader := FileStore.Grows.put hfree (.file artifacts.header.toUTF8)
  have hwritten := node?_put_file hfree hfree artifacts.header.toUTF8
  rw [writeArtifacts_eq_ok_iff]
  obtain ⟨hnone, rfl, rfl⟩ | ⟨info, hsome, hinfo, rfl⟩ := hlast
  · have hsecond := hagain _ hheader hwritten
    rw [FileStore.put_put] at hsecond
    exact ⟨_, _, FileStore.createAll_again hcreated hheader, hsecond, .inl ⟨hnone, rfl, rfl⟩⟩
  · obtain ⟨infoPlace, rfl, hinfoFree, hinfoLocate, hinfoAgain⟩ :=
      FileStore.exists_writeBytes_again hinfo
    have hgrows := FileStore.Grows.put hinfoFree (.file info.toUTF8)
    have hne : infoPlace ≠ place := by
      rintro rfl
      exact hapart _ rfl (hinfoLocate.trans (hgrows.locate hlocate).symm)
    have hplace := node?_put_file hinfoFree hwritten info.toUTF8
    have hinfoPlace := node?_put_file hinfoFree hinfoFree info.toUTF8
    have hsecond := hagain _ (hheader.trans hgrows) hplace
    have hthird := hinfoAgain _ (hgrows.trans (FileStore.Grows.put hplace _))
      (node?_put_file hplace hinfoPlace artifacts.header.toUTF8)
    rw [FileStore.put_put_again hne] at hthird
    exact ⟨_, _, FileStore.createAll_again hcreated (hheader.trans hgrows), hsecond,
      .inr ⟨info, hsome, hthird, rfl⟩⟩

/-! ## Reading -/

/-- All the files that a build may read. -/
def readPaths (recipe : Recipe) : List Path :=
  recipe.contentInputs ++ if recipe.fixedVersion = none then [recipe.resolver.fallback] else []

/-- The describe command runs in the source tree of the recipe. -/
theorem directory_of_isDirectory (h : host.files.isDirectory recipe.sourceRoot) :
    ∃ place, recipe.resolver.directory host = .ok place := by
  obtain ⟨place, hlocate, hnode⟩ :=
    FileStore.find_eq_ok_iff.mp (FileStore.isDirectory_iff.mp h)
  obtain ⟨_, hcheck, -⟩ := bind_eq_ok_iff.mp hlocate
  refine ⟨place, Version.Resolver.directory_eq_ok_iff.mpr ⟨not_or.mpr ⟨?_, ?_⟩, hlocate, hnode⟩⟩
  · intro hnul
    change recipe.sourceRoot.toList.contains '\x00' at hnul
    rw [FileStore.checkPath, if_pos hnul] at hcheck
    cases hcheck
  · change ¬ Version.describeArguments.any (·.toList.contains '\x00')
    decide +kernel

/-- What a build has left shows the same build all that it has read. -/
theorem shows_built (h : (recipe.build host).result = .ok output)
    (hinputs : ∀ input ∈ recipe.readPaths, ∀ path ∈ output.headerPath :: output.infoPath.toList,
      host.files.locate input ≠ (recipe.build host).files.locate path)
    (hroot : recipe.fixedVersion = none → host.files.isDirectory recipe.sourceRoot) :
    recipe.Shows host { host with files := (recipe.build host).files } := by
  obtain ⟨artifacts, -, hwrite, -⟩ := build_eq_ok h
  have hdelivers := delivers_writeArtifacts hwrite
  have hfind {path : Path} (hpath : path ∈ recipe.readPaths) :
      Extends (host.files.find path) ((recipe.build host).files.find path) :=
    fun node hnode ↦ hdelivers.find hnode fun target htarget ↦ hinputs path hpath target htarget
  refine ⟨rfl, fun path hpath ↦ hfind (List.mem_append_left _ hpath), fun _ ↦ ?_⟩
  refine extends_version fun hfixed ↦ ?_
  have hfallback : recipe.resolver.fallback ∈ recipe.readPaths := by
    rw [readPaths, if_pos hfixed]
    exact List.mem_append_right _ (List.mem_singleton_self _)
  obtain ⟨place, hplace⟩ := directory_of_isDirectory (hroot hfixed)
  have hdirectory : Extends (recipe.resolver.directory host)
      (recipe.resolver.directory { host with files := (recipe.build host).files }) :=
    Version.Resolver.extends_directory hdelivers.grows.keepsDirectories
  exact Version.Resolver.extends_resolve
    (Version.Resolver.extends_describe rfl hdirectory)
    (Version.Resolver.extends_describe rfl (hdirectory.symm_of_ok hplace))
    fun _ _ ↦ hfind hfallback

/-! ## Building -/

/-- The same build on what a build has left has the same outcome: it succeeds with the same paths,
prints the same and leaves the files exactly as they are. -/
theorem build_again (h : (recipe.build host).result = .ok output)
    (hapart : output.Apart (recipe.build host).files)
    (hinputs : ∀ input ∈ recipe.readPaths, ∀ path ∈ output.headerPath :: output.infoPath.toList,
      host.files.locate input ≠ (recipe.build host).files.locate path)
    (hroot : recipe.fixedVersion = none → host.files.isDirectory recipe.sourceRoot) :
    recipe.build { host with files := (recipe.build host).files } = recipe.build host := by
  obtain ⟨artifacts, hartifacts, hwrite, -⟩ := build_eq_ok h
  have hagain := (shows_built h hinputs hroot).artifacts artifacts hartifacts
  rw [build_of_written hagain (writeArtifacts_again hwrite hapart), build_of_written hartifacts hwrite]
  rfl

/-- The output directory and the one above it are missing at first. -/
def releaseRecipe : Recipe where
  providerSource := some "api.c"
  typeDefinitions := some "types.h"
  opcodes := some "opcodes.json"
  elementTypes := some "types.json"
  outDir := some "out/include/"

/-- The source tree is described, and it has no version file. -/
def taggedHost : Host :=
  { tablesHost with
    program? := fun _ ↦
      some (Program.command fun _ _ ↦ ⟨"v1.2-3-gabc\n".toUTF8, .exited 0, ⟨0⟩⟩) }

theorem build_again_releaseRecipe :
    (releaseRecipe.build taggedHost).result =
        .ok ⟨"out/include/bohrium_api.h", some "out/include/_info.json"⟩ ∧
      releaseRecipe.build { taggedHost with files := (releaseRecipe.build taggedHost).files } =
        releaseRecipe.build taggedHost := by
  have hresult : (releaseRecipe.build taggedHost).result =
      .ok ⟨"out/include/bohrium_api.h", some "out/include/_info.json"⟩ := by
    decide +kernel
  have hapart : (releaseRecipe.build taggedHost).files.locate "out/include/_info.json" ≠
      (releaseRecipe.build taggedHost).files.locate "out/include/bohrium_api.h" := by
    decide +kernel
  refine ⟨hresult, build_again hresult ?_ (by decide +kernel) fun _ ↦ by decide +kernel⟩
  rintro infoPath hpath
  obtain rfl := Option.some.inj hpath
  exact hapart

end ExportTable.Recipe
