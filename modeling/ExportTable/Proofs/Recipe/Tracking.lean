import ExportTable.Proofs.Recipe.Inputs

/-!
# What a build announces

A build script announces the paths that its recipe sets, one on a line. While nothing changes at the
announced paths and no directory comes or goes, the artifacts stay the same, if the version file is
announced wherever it gives the version. The usual version file, which no path of the recipe names,
is read without being announced.
-/

namespace ExportTable.Recipe

variable {recipe : Recipe} {host : Host} {path : Path}

/-! ## Announced paths -/

/-- What a line that announces a path starts with. -/
def announcementMark : String := "cargo:rerun-if-changed="

def announcedPath? (line : List Char) : Option Path :=
  (announcementMark.toList.isPrefixOf? line).map String.ofList

/-- The paths that the lines of a text announce. -/
def announcedPaths (printed : String) : List Path :=
  (printed.toList.splitOn '\n').filterMap announcedPath?

theorem toList_announcement (path : Path) :
    (announcement path).toList = announcementMark.toList ++ path.toList ++ ['\n'] := by
  have htext : announcement path = announcementMark ++ path ++ "\n" := rfl
  rw [htext, String.toList_append, String.toList_append]
  rfl

theorem announcedPaths_append (path : Path) (rest : String) :
    announcedPaths (announcement path ++ rest) =
      ((announcementMark.toList ++ path.toList).splitOn '\n').filterMap announcedPath? ++
        announcedPaths rest := by
  rw [announcedPaths, announcedPaths, String.toList_append, toList_announcement, List.append_assoc,
    List.singleton_append, List.splitOn_eq_splitOnP, List.splitOn_eq_splitOnP,
    List.splitOn_eq_splitOnP, List.splitOnP_append_cons _ _ (by rfl), List.filterMap_append]

/-- A path that holds no line feed is announced by a line of its own. -/
theorem mem_announcedPaths_join {paths : List Path} (hpath : path ∈ paths)
    (hline : '\n' ∉ path.toList) :
    path ∈ announcedPaths (String.join (paths.map announcement)) := by
  induction paths with
  | nil => cases hpath
  | cons first rest ih =>
    rw [List.map_cons, String.join_cons, announcedPaths_append, List.mem_append]
    rcases List.mem_cons.mp hpath with rfl | hrest
    · left
      have hmark : '\n' ∉ announcementMark.toList ++ path.toList := by
        rw [List.mem_append, not_or]
        exact ⟨by decide, hline⟩
      have hwhole := List.splitOn_intercalate '\n' (List.forall_mem_singleton.mpr hmark)
        (List.cons_ne_nil _ [])
      have hread : announcedPath? (announcementMark.toList ++ path.toList) = some path := by
        rw [announcedPath?, List.isPrefixOf?_eq_some_iff_append_eq.mpr rfl, Option.map_some,
          String.ofList_toList]
      rw [List.intercalate_singleton] at hwhole
      rw [hwhole, List.filterMap_cons_some hread]
      exact List.mem_cons_self
    · exact .inr (ih hrest)

theorem contentInputs_subset_inputs (recipe : Recipe) : recipe.contentInputs ⊆ recipe.inputs := by
  have hset : recipe.contentInputs ⊆
      [recipe.providerSource, recipe.typeDefinitions, recipe.opcodes, recipe.elementTypes,
        recipe.versionFile].filterMap id :=
    List.filterMap_subset id (List.subset_append_left _ [recipe.versionFile])
  intro path hpath
  exact List.mem_append_left _ (hset hpath)

/-! ## Artifacts -/

variable {store : FileStore} {output : Output}

/-- The artifacts depend on directories and announced paths only, as long as the version file is
announced if it gives the version. -/
theorem artifacts_of_announced (houtDir : host.outDir?.isSome)
    (h : (recipe.build host).result = .ok output)
    (hkeeps : host.files.KeepsDirectories store) (hback : store.KeepsDirectories host.files)
    (hannounced : ∀ path ∈ announcedPaths (recipe.build host).printed,
      (store.find path).toOption = (host.files.find path).toOption)
    (hlines : ∀ path ∈ recipe.contentInputs, '\n' ∉ path.toList)
    (hversion : recipe.hasTables → recipe.fixedVersion = none →
      ∀ fault, recipe.resolver.describe host = .error fault →
        recipe.resolver.fallback ∈ announcedPaths (recipe.build host).printed) :
    recipe.header store = recipe.header host.files ∧
      (recipe.hasTables → recipe.infoText { host with files := store } = recipe.infoText host) := by
  obtain ⟨artifacts, hartifacts, -, hprinted⟩ := build_eq_ok h
  obtain ⟨-, hheader, hinfo⟩ := artifacts_eq_ok hartifacts
  have hfind {path : Path} (hpath : path ∈ announcedPaths (recipe.build host).printed) :
      Extends (host.files.find path) (store.find path) :=
    .of_toOption_eq (hannounced path hpath)
  have hshows : recipe.Shows host { host with files := store } := by
    refine ⟨rfl, fun path hpath ↦ hfind ?_, fun htables ↦ extends_version fun hfixed ↦ ?_⟩
    · rw [hprinted, announcements, if_pos houtDir]
      exact mem_announcedPaths_join (contentInputs_subset_inputs recipe hpath) (hlines path hpath)
    · exact Version.Resolver.extends_resolve
        (Version.Resolver.extends_describe rfl (Version.Resolver.extends_directory hkeeps))
        (Version.Resolver.extends_describe rfl (Version.Resolver.extends_directory hback))
        fun fault hfault ↦ hfind (hversion htables hfixed fault hfault)
  refine ⟨hshows.header.eq_of_ok hheader, fun htables ↦ ?_⟩
  obtain ⟨text, htext, -⟩ := map_eq_ok_iff.mp (hinfo htables)
  exact (hshows.infoText htables).eq_of_ok htext

/-- The version comes from the version file that is usual in the source tree. -/
def usualRecipe : Recipe where
  providerSource := some "api.c"
  typeDefinitions := some "types.h"
  opcodes := some "opcodes.json"
  elementTypes := some "types.json"
  outDir := some "out"

def scriptHost : Host :=
  { tablesHost with
    files := tablesHost.files.put ["VERSION"] (.file "1.2-3\n".toUTF8)
    outDir? := some "out" }

/-- The version file is announced because it is watched. -/
def watchedRecipe : Recipe := { usualRecipe with watched := ["./VERSION"] }

/-- A file that no recipe names. -/
def notedStore : FileStore := scriptHost.files.put ["notes.txt"] (.file "new".toUTF8)

theorem artifacts_of_announced_watchedRecipe :
    (watchedRecipe.build scriptHost).result =
        .ok ⟨"out/bohrium_api.h", some "out/_info.json"⟩ ∧
      watchedRecipe.header notedStore = watchedRecipe.header scriptHost.files ∧
      watchedRecipe.infoText { scriptHost with files := notedStore } =
        watchedRecipe.infoText scriptHost := by
  have hresult : (watchedRecipe.build scriptHost).result =
      .ok ⟨"out/bohrium_api.h", some "out/_info.json"⟩ := by
    decide +kernel
  obtain ⟨-, -, -, hprinted⟩ := build_eq_ok hresult
  have hpaths : announcedPaths (watchedRecipe.build scriptHost).printed =
      ["api.c", "types.h", "opcodes.json", "types.json", "./VERSION"] := by
    rw [hprinted]
    decide +kernel
  have hannounced : ∀ path ∈ announcedPaths (watchedRecipe.build scriptHost).printed,
      (notedStore.find path).toOption = (scriptHost.files.find path).toOption := by
    rw [hpaths]
    decide +kernel
  have hversion : watchedRecipe.resolver.fallback ∈
      announcedPaths (watchedRecipe.build scriptHost).printed := by
    rw [hpaths]
    decide +kernel
  have hfree : scriptHost.files.node? ["notes.txt"] ≠ some .directory := by decide +kernel
  obtain ⟨hheader, hinfo⟩ := artifacts_of_announced rfl hresult
    (FileStore.Grows.put hfree _).keepsDirectories
    (FileStore.keepsDirectories_of_put_file hfree _) hannounced (by decide +kernel)
    fun _ _ _ _ ↦ hversion
  exact ⟨hresult, hheader, hinfo rfl⟩

/-- The usual version file with another version. -/
def releasedStore : FileStore := scriptHost.files.put ["VERSION"] (.file "1.2-4\n".toUTF8)

/-- The usual version file can change an artifact, and it is not announced. -/
theorem versionFile_unannounced : ¬ ∀ (recipe : Recipe) (host : Host) (store : FileStore)
    (output other : Output), host.outDir?.isSome → (recipe.build host).result = .ok output →
    host.files.KeepsDirectories store → store.KeepsDirectories host.files →
    (∀ path ∈ announcedPaths (recipe.build host).printed,
      (store.find path).toOption = (host.files.find path).toOption) →
    (recipe.build { host with files := store }).result = .ok other →
    recipe.header store = recipe.header host.files ∧
      (recipe.hasTables →
        recipe.infoText { host with files := store } = recipe.infoText host) := by
  intro h
  have hresult : (usualRecipe.build scriptHost).result =
      .ok ⟨"out/bohrium_api.h", some "out/_info.json"⟩ := by
    decide +kernel
  have hagain : (usualRecipe.build { scriptHost with files := releasedStore }).result =
      .ok ⟨"out/bohrium_api.h", some "out/_info.json"⟩ := by
    decide +kernel
  obtain ⟨-, -, -, hprinted⟩ := build_eq_ok hresult
  have hannounced : ∀ path ∈ announcedPaths (usualRecipe.build scriptHost).printed,
      (releasedStore.find path).toOption = (scriptHost.files.find path).toOption := by
    rw [hprinted]
    decide +kernel
  have hchanged : usualRecipe.infoText { scriptHost with files := releasedStore } ≠
      usualRecipe.infoText scriptHost := by
    decide +kernel
  have hfree : scriptHost.files.node? ["VERSION"] ≠ some .directory := by decide +kernel
  obtain ⟨-, hinfo⟩ := h usualRecipe scriptHost releasedStore _ _ rfl hresult
    (FileStore.Grows.put hfree _).keepsDirectories
    (FileStore.keepsDirectories_of_put_file hfree _) hannounced hagain
  exact hchanged (hinfo rfl)

end ExportTable.Recipe
