import ExportTable.Proofs.Recipe.Building
import ExportTable.Proofs.Version.Sources

/-!
# What a build reads

A build reads the files of its recipe, the version file only if nothing else gives the version, and
it runs the describe command in the source tree. A host that shows the same there gives the same
artifacts, whatever else it holds.
-/

namespace ExportTable

variable {host other : Host} {files store : FileStore} {path : Path}

/-! ## Tables -/

theorem FileStore.extends_readTable {α : Type} (h : Extends (files.find path) (store.find path))
    (kind : TableKind) (read : String → Except Json.ReadError (List α)) :
    Extends (files.readTable kind read path) (store.readTable kind read path) := by
  intro entries hentries
  unfold readTable at hentries ⊢
  cases htext : files.readText path with
  | error e =>
    rw [htext] at hentries
    cases hentries
  | ok text =>
    rw [htext] at hentries
    rw [extends_readText h text htext]
    exact hentries

/-! ## The artifacts -/

namespace Recipe

variable {recipe : Recipe}

theorem extends_readInput (h : Extends (files.find path) (store.find path)) :
    Extends (readInput files path) (readInput store path) := by
  intro text htext
  unfold readInput at htext ⊢
  split at htext
  · next found hfound =>
    rw [FileStore.extends_readText h found hfound]
    exact htext
  · cases htext

theorem extends_interface
    (h : ∀ path, recipe.providerSource = some path →
      Extends (files.find path) (store.find path)) :
    Extends (recipe.interface files) (recipe.interface store) := by
  unfold interface
  cases hpath : recipe.providerSource with
  | none => exact .rfl
  | some path => exact (extends_readInput (h path hpath)).bind fun _ ↦ .rfl

theorem extends_typeDefinitionsText
    (h : ∀ path, recipe.typeDefinitions = some path →
      Extends (files.find path) (store.find path)) :
    Extends (recipe.typeDefinitionsText files) (recipe.typeDefinitionsText store) := by
  unfold typeDefinitionsText
  cases hpath : recipe.typeDefinitions with
  | none => exact .rfl
  | some path =>
    intro text htext
    dsimp only at htext ⊢
    split at htext
    · next hfile =>
      obtain ⟨bytes, hbytes⟩ := FileStore.isFile_iff.mp hfile
      rw [if_pos (FileStore.isFile_iff.mpr ⟨bytes, h path hpath _ hbytes⟩)]
      exact extends_readInput (h path hpath) text htext
    · cases htext

theorem extends_operations
    (hopcodes : ∀ path, recipe.opcodes = some path → Extends (files.find path) (store.find path))
    (htypes : ∀ path, recipe.elementTypes = some path →
      Extends (files.find path) (store.find path)) :
    Extends (recipe.operations files) (recipe.operations store) := by
  unfold operations
  split
  · next opcodesPath typesPath hopcodesPath htypesPath =>
    refine ((FileStore.extends_readTable (hopcodes _ hopcodesPath) _ _).mapError _).bind fun _ ↦ ?_
    exact ((FileStore.extends_readTable (htypes _ htypesPath) _ _).mapError _).bind fun _ ↦ .rfl
  · exact .rfl

theorem extends_version
    (h : recipe.fixedVersion = none →
      Extends (recipe.resolver.resolve host) (recipe.resolver.resolve other)) :
    Extends (recipe.version host) (recipe.version other) := by
  unfold version
  cases hfixed : recipe.fixedVersion with
  | some fixed => exact .rfl
  | none =>
    intro version hversion
    dsimp only at hversion ⊢
    split at hversion
    · next resolved source hresolved =>
      rw [h hfixed _ hresolved]
      exact hversion
    · cases hversion

/-- The files that a build reads for other things than its version. -/
def contentInputs (recipe : Recipe) : List Path :=
  [recipe.providerSource, recipe.typeDefinitions, recipe.opcodes, recipe.elementTypes].filterMap id

/-- The second host shows a build all that it has seen on the first one. -/
structure Shows (recipe : Recipe) (host other : Host) : Prop where
  outDir : other.outDir? = host.outDir?
  content : ∀ path ∈ recipe.contentInputs, Extends (host.files.find path) (other.files.find path)
  version : recipe.hasTables → Extends (recipe.version host) (recipe.version other)

namespace Shows

theorem header (h : recipe.Shows host other) :
    Extends (recipe.header host.files) (recipe.header other.files) := by
  refine (extends_typeDefinitionsText fun path hpath ↦ ?_).bind fun _ ↦
    (extends_interface fun path hpath ↦ ?_).bind fun _ ↦ .rfl
  · exact h.content path (by simp [contentInputs, hpath])
  · exact h.content path (by simp [contentInputs, hpath])

theorem infoText (h : recipe.Shows host other) (htables : recipe.hasTables) :
    Extends (recipe.infoText host) (recipe.infoText other) := by
  refine Extends.bind ?_ fun _ ↦ .rfl
  refine (extends_operations (fun path hpath ↦ ?_) fun path hpath ↦ ?_).bind fun _ ↦
    (h.version htables).bind fun _ ↦ .rfl
  · exact h.content path (by simp [contentInputs, hpath])
  · exact h.content path (by simp [contentInputs, hpath])

/-- The same artifacts are rendered on both hosts. -/
theorem artifacts (h : recipe.Shows host other) :
    Extends (recipe.artifacts host) (recipe.artifacts other) := by
  intro artifacts hartifacts
  rw [artifacts_eq_ok_iff] at hartifacts ⊢
  obtain ⟨hdirectory, hheader, hinfo⟩ := hartifacts
  refine ⟨?_, h.header _ hheader, ?_⟩
  · rw [outputDirectory, h.outDir]
    exact hdirectory
  · split
    · next htables =>
      rw [if_pos htables] at hinfo
      exact (h.infoText htables).map some _ hinfo
    · next htables => rwa [if_neg htables] at hinfo

end Shows

end Recipe

end ExportTable
