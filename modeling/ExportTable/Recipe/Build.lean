import ExportTable.FileStore.Write
import ExportTable.Recipe

/-!
# Building

A build makes both artifacts and only then touches the output directory. A build script further
announces the files of which a change asks for a new build.
-/

namespace ExportTable.Recipe

/-- The paths of the written artifacts. -/
structure Output where
  headerPath : Path
  infoPath : Option Path
  deriving DecidableEq, Repr

/-- What a build leaves behind: the files, the text that it printed, and its result. -/
structure Outcome where
  files : FileStore
  printed : String
  result : Except BuildError Output

def outputDirectory (recipe : Recipe) (host : Host) : Except BuildError Path :=
  match recipe.outDir.or host.outDir? with
  | some path => .ok path
  | none => .error .outDirUnset

/-- The texts to be written. -/
structure Artifacts where
  directory : Path
  header : String
  info : Option String
  deriving DecidableEq, Repr

def artifacts (recipe : Recipe) (host : Host) : Except BuildError Artifacts := do
  let directory ← recipe.outputDirectory host
  let header ← recipe.header host.files
  let info ← if recipe.hasTables then (recipe.infoText host).map some else .ok none
  return ⟨directory, header, info⟩

/-- The call of the describe command that a build takes. -/
def buildCall? (recipe : Recipe) (host : Host) : Option (List String × Location) :=
  match recipe.outputDirectory host, recipe.header host.files with
  | .ok _, .ok _ => if recipe.hasTables then recipe.infoCall? host else none
  | _, _ => none

/-- Writes the artifacts, one after the other. -/
def writeArtifacts (recipe : Recipe) (files : FileStore) (artifacts : Artifacts) :
    FileStore × Except IoError Output :=
  match files.createAll artifacts.directory with
  | (files, .error e) => (files, .error e)
  | (files, .ok ()) =>
    let headerPath := artifacts.directory.join recipe.headerName
    match files.writeText headerPath artifacts.header with
    | .error e => (files, .error e)
    | .ok files =>
      match artifacts.info with
      | none => (files, .ok ⟨headerPath, none⟩)
      | some info =>
        let infoPath := artifacts.directory.join recipe.format.fileName
        match files.writeText infoPath info with
        | .error e => (files, .error e)
        | .ok files => (files, .ok ⟨headerPath, some infoPath⟩)

/-- The files of which a change asks for a new build. -/
def inputs (recipe : Recipe) : List Path :=
  [recipe.providerSource, recipe.typeDefinitions, recipe.opcodes, recipe.elementTypes,
   recipe.versionFile].filterMap id ++ recipe.watched

def announcement (path : Path) : String := s!"cargo:rerun-if-changed={path}\n"

def announcements (recipe : Recipe) (host : Host) : String :=
  if host.outDir?.isSome then String.join (recipe.inputs.map announcement) else ""

def build (recipe : Recipe) (host : Host) : Outcome :=
  match recipe.artifacts host with
  | .error e => ⟨host.files, "", .error e⟩
  | .ok artifacts =>
    match recipe.writeArtifacts host.files artifacts with
    | (files, .error e) => ⟨files, "", .error (.io e)⟩
    | (files, .ok output) => ⟨files, recipe.announcements host, .ok output⟩

end ExportTable.Recipe
