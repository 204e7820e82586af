import ExportTable.Proofs.FileStore.Reading
import ExportTable.Proofs.Info.Sections
import ExportTable.Proofs.Recipe.Building

/-!
# What a build delivers

After a build that succeeds, the path of the info artifact leads to the text of the info artifact.
The path of the header leads to the text of the header, unless both paths lead to the same place: the
info artifact is written last, over the header, and the build still succeeds.
-/

namespace ExportTable

theorem Interface.exists_header_eq_append (interface : Interface) (typeDefinitions : String) :
    ∃ rest, interface.header typeDefinitions = "#ifndef " ++ rest := by
  delta Interface.header
  simp only [String.append_assoc]
  exact ⟨_, rfl⟩

namespace Recipe

variable {recipe : Recipe} {host : Host} {output : Output}

theorem header_ne_text (interface : Interface) (typeDefinitions : String) (info : Info)
    (format : InfoFormat) : interface.header typeDefinitions ≠ info.text format := by
  obtain ⟨rest, hheader⟩ := interface.exists_header_eq_append typeDefinitions
  obtain ⟨more, hinfo⟩ := info.exists_text_eq_append format
  rw [hheader, hinfo, ← String.toList_inj.ne]
  cases format <;> simp [InfoFormat.lead]

theorem header_ne_infoText {header info : String} (hheader : recipe.header host.files = .ok header)
    (hinfo : recipe.infoText host = .ok info) : header ≠ info := by
  obtain ⟨typeDefinitions, -, hheader⟩ := bind_eq_ok_iff.mp hheader
  obtain ⟨interface, -, hheader⟩ := bind_eq_ok_iff.mp hheader
  obtain ⟨artifact, -, hinfo⟩ := bind_eq_ok_iff.mp hinfo
  obtain rfl := Except.ok.inj hheader
  obtain rfl := Except.ok.inj hinfo
  exact header_ne_text interface typeDefinitions artifact recipe.format

/-- The info artifact holds the version of the recipe. -/
theorem version_of_infoText {text : String} (h : recipe.infoText host = .ok text) :
    ∃ version rest, recipe.version host = .ok version ∧
      text = recipe.format.lead ++ recipe.format.literal version ++ rest := by
  obtain ⟨info, hinfo, htext⟩ := bind_eq_ok_iff.mp h
  obtain ⟨_, _, hinfo⟩ := bind_eq_ok_iff.mp hinfo
  obtain ⟨version, hversion, hinfo⟩ := bind_eq_ok_iff.mp hinfo
  obtain rfl := Except.ok.inj hinfo
  obtain rfl := Except.ok.inj htext
  obtain ⟨rest, hrest⟩ := Info.exists_text_eq_append _ recipe.format
  exact ⟨version, rest, hversion, hrest⟩

/-! ## Written files -/

theorem isSome_infoPath (h : (recipe.build host).result = .ok output) :
    output.infoPath.isSome = recipe.hasTables := by
  obtain ⟨artifacts, hartifacts, hwrite, -⟩ := build_eq_ok h
  obtain ⟨created, headed, -, -, ⟨hinfo, -, rfl⟩ | ⟨info, hinfo, -, rfl⟩⟩ :=
    writeArtifacts_eq_ok_iff.mp hwrite
  · rw [← isSome_info hartifacts, hinfo]
  · rw [← isSome_info hartifacts, hinfo, Option.isSome_some, Option.isSome_some]

/-- The info artifact is written last. -/
theorem readText_infoPath (h : (recipe.build host).result = .ok output) {infoPath : Path}
    (hpath : output.infoPath = some infoPath) :
    ∃ info, recipe.infoText host = .ok info ∧
      (recipe.build host).files.readText infoPath = .ok info := by
  have htables : recipe.hasTables := by
    rw [← isSome_infoPath h, hpath]
    rfl
  obtain ⟨artifacts, hartifacts, hwrite, -⟩ := build_eq_ok h
  obtain ⟨-, -, hinfo⟩ := artifacts_eq_ok hartifacts
  obtain ⟨created, headed, -, -, ⟨-, -, rfl⟩ | ⟨info, hsome, hwritten, rfl⟩⟩ :=
    writeArtifacts_eq_ok_iff.mp hwrite
  · cases hpath
  · obtain rfl := Option.some.inj hpath
    obtain ⟨text, htext, heq⟩ := map_eq_ok_iff.mp (hinfo htables)
    obtain rfl := Option.some.inj (heq.trans hsome)
    exact ⟨text, htext, FileStore.readText_writeText hwritten⟩

/-- The header is read back unless the info artifact was written to the same place. -/
theorem readText_headerPath_iff (h : (recipe.build host).result = .ok output) {header : String}
    (hheader : recipe.header host.files = .ok header) :
    (recipe.build host).files.readText output.headerPath = .ok header ↔
      output.Apart (recipe.build host).files := by
  constructor
  · intro hread infoPath hpath hsame
    obtain ⟨info, hinfo, hinfoRead⟩ := readText_infoPath h hpath
    have hnode := FileStore.readText_eq_ok_iff.mp hinfoRead
    rw [FileStore.find, hsame, ← FileStore.find, ← FileStore.readText_eq_ok_iff, hread] at hnode
    exact header_ne_infoText hheader hinfo (Except.ok.inj hnode)
  · intro hapart
    obtain ⟨artifacts, hartifacts, hwrite, -⟩ := build_eq_ok h
    obtain ⟨-, hrendered, -⟩ := artifacts_eq_ok hartifacts
    obtain rfl := Except.ok.inj (hheader.symm.trans hrendered)
    obtain ⟨created, headed, -, hheaded, hlast⟩ := writeArtifacts_eq_ok_iff.mp hwrite
    have hread := FileStore.readText_writeText hheaded
    obtain ⟨-, hfiles, rfl⟩ | ⟨info, -, hwritten, rfl⟩ := hlast
    · rw [hfiles]
      exact hread
    · have hdelivers := FileStore.delivers_writeBytes hwritten ""
      rw [FileStore.readText_eq_ok_iff] at hread ⊢
      obtain ⟨place, hlocate, -⟩ := FileStore.find_eq_ok_iff.mp hread
      refine hdelivers.find hread fun target htarget ↦ ?_
      obtain rfl := List.mem_singleton.mp htarget
      rw [hlocate, ← hdelivers.grows.locate hlocate]
      exact (hapart _ rfl).symm

/-- The path of the info artifact leads to its text, and that of the header leads to the text of the
header exactly if the two paths lead to different places. -/
theorem readText_build (h : (recipe.build host).result = .ok output) :
    ∃ header, recipe.header host.files = .ok header ∧
      output.infoPath.isSome = recipe.hasTables ∧
      (∀ infoPath, output.infoPath = some infoPath → ∃ info, recipe.infoText host = .ok info ∧
        (recipe.build host).files.readText infoPath = .ok info) ∧
      ((recipe.build host).files.readText output.headerPath = .ok header ↔
        output.Apart (recipe.build host).files) := by
  obtain ⟨artifacts, hartifacts, -⟩ := build_eq_ok h
  obtain ⟨-, hheader, -⟩ := artifacts_eq_ok hartifacts
  exact ⟨artifacts.header, hheader, isSome_infoPath h, fun _ ↦ readText_infoPath h,
    readText_headerPath_iff h hheader⟩

/-- The name of the header leads back to the place of the info artifact. -/
def sharedRecipe : Recipe where
  providerSource := some "api.c"
  typeDefinitions := some "types.h"
  opcodes := some "opcodes.json"
  elementTypes := some "types.json"
  fixedVersion := some "1"
  outDir := some "out"
  headerName := "../out/_info.json"

theorem result_sharedRecipe :
    (sharedRecipe.build tablesHost).result =
      .ok ⟨"out/../out/_info.json", some "out/_info.json"⟩ := by
  decide +kernel

theorem locate_sharedRecipe :
    (sharedRecipe.build tablesHost).files.locate "out/_info.json" =
      (sharedRecipe.build tablesHost).files.locate "out/../out/_info.json" := by
  decide +kernel

theorem readText_build_sharedRecipe :
    (sharedRecipe.build tablesHost).result =
        .ok ⟨"out/../out/_info.json", some "out/_info.json"⟩ ∧
      (∃ info, sharedRecipe.infoText tablesHost = .ok info ∧
        (sharedRecipe.build tablesHost).files.readText "out/_info.json" = .ok info) ∧
      ∃ header, sharedRecipe.header tablesHost.files = .ok header ∧
        (sharedRecipe.build tablesHost).files.readText "out/../out/_info.json" ≠ .ok header := by
  obtain ⟨header, hheader, -, hinfo, hread⟩ := readText_build result_sharedRecipe
  refine ⟨result_sharedRecipe, hinfo _ rfl, header, hheader, ?_⟩
  rw [ne_eq, hread]
  exact fun hapart ↦ hapart _ rfl locate_sharedRecipe

/-- A build can succeed with its header lost. -/
theorem header_lost : ¬ ∀ (recipe : Recipe) (host : Host) (output : Output),
    (recipe.build host).result = .ok output →
      (∃ header, recipe.header host.files = .ok header ∧
        (recipe.build host).files.readText output.headerPath = .ok header) ∧
      ∀ infoPath, output.infoPath = some infoPath → ∃ info, recipe.infoText host = .ok info ∧
        (recipe.build host).files.readText infoPath = .ok info := by
  intro h
  obtain ⟨⟨header, hheader, hread⟩, -⟩ := h _ _ _ result_sharedRecipe
  rw [readText_headerPath_iff result_sharedRecipe hheader] at hread
  exact hread _ rfl locate_sharedRecipe

end Recipe

end ExportTable
