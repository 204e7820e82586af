import ExportTable.Configuration
import ExportTable.Info.Text
import ExportTable.Interface.Header
import ExportTable.Interface.Validation
import ExportTable.Opcode.Json
import ExportTable.Signature.Extraction
import ExportTable.Version.Resolver

/-!
# Recipes

A recipe says what to generate, from which inputs, and where to. From a host it gives the interface
of the provider source, the header, the version, and the info artifact. Nothing here changes the
host.
-/

namespace ExportTable

inductive TableError where
  | unreadable (path : Path) (error : IoError)
  | invalid (kind : TableKind) (error : Json.ReadError)
  deriving DecidableEq, Repr

/-- The wording of a table that is no JSON, or of another shape. -/
def TableError.message : TableError → String
  | unreadable path e => s!"failed to read {path}: {e.message}"
  | invalid kind e =>
    s!"invalid {kind.word} table: " ++ e.message?.getD "not a table of this kind"

inductive BuildError where
  | outDirUnset
  | io (error : IoError)
  | unreadable (path : Path) (error : IoError)
  | providerSourceUnset
  | typeDefinitionsUnset
  | typeDefinitionsMissing (path : Path)
  | tablesUnset
  | extraction (path : Path) (error : ExtractionError)
  | validation (error : Interface.ValidationError)
  | table (error : TableError)
  | compilation (error : CompileError)
  | version (error : Version.ResolveError)
  deriving DecidableEq, Repr

def BuildError.message : BuildError → String
  | outDirUnset => "Environment variable not set: OUT_DIR"
  | io e => s!"IO error: {e.message}"
  | unreadable path e => s!"failed to read {path}: {e.message}"
  | providerSourceUnset => "Provider source not set"
  | typeDefinitionsUnset =>
    "Type definitions not set; the header cannot be generated without them"
  | typeDefinitionsMissing path => s!"Type definitions not found: {path}"
  | tablesUnset => "Opcode and type tables must both be set to generate the info artifact"
  | extraction path e => s!"{path}: {e.message}"
  | validation e => s!"Module validation error: {e.message}"
  | table e => s!"Metadata error: {e.message}"
  | compilation e => s!"Metadata error: {e.message}"
  | version e => s!"Version error: {e.message}"

structure Recipe where
  names : Interface.Names := {}
  doc : Option String := none
  providerSource : Option Path := none
  typeDefinitions : Option Path := none
  opcodes : Option Path := none
  elementTypes : Option Path := none
  sourceRoot : Path := "."
  versionFile : Option Path := none
  /-- Taken as it is, without asking the source tree. -/
  fixedVersion : Option String := none
  timeout : Duration := .ofSeconds 10
  opcodePrefix : String := Opcode.defaultPrefix
  format : InfoFormat := .json
  /-- Where it is unset, the output directory of the host counts. -/
  outDir : Option Path := none
  headerName : String := "bohrium_api.h"
  /-- Further files of which a change asks for a new build. -/
  watched : List Path := []
  deriving DecidableEq, Repr

/-- Reads and decodes the table in a file. -/
def FileStore.readTable (files : FileStore) (kind : TableKind)
    (read : String → Except Json.ReadError (List α)) (path : Path) : Except TableError (List α) :=
  match files.readText path with
  | .error e => .error (.unreadable path e)
  | .ok text =>
    match read text with
    | .error e => .error (.invalid kind e)
    | .ok entries => .ok entries

def FileStore.readOpcodes (files : FileStore) : Path → Except TableError (List Opcode) :=
  files.readTable .opcodes Opcode.readTable

def FileStore.readElementTypes (files : FileStore) : Path → Except TableError (List ElementType) :=
  files.readTable .elementTypes ElementType.readTable

namespace Recipe

def ofConfiguration (c : Configuration) : Recipe where
  names := c.names
  providerSource := c.paths.providerSource
  typeDefinitions := c.paths.typeDefinitions
  opcodes := c.paths.opcodes
  elementTypes := c.paths.elementTypes
  sourceRoot := c.paths.sourceRoot
  versionFile := c.paths.versionFile
  timeout := .ofSeconds c.metadata.timeoutSeconds
  opcodePrefix := c.metadata.opcodePrefix
  format := c.metadata.format
  outDir := some c.paths.outDir
  headerName := c.paths.headerName

def readInput (files : FileStore) (path : Path) : Except BuildError String :=
  match files.readText path with
  | .ok text => .ok text
  | .error e => .error (.unreadable path e)

/-- The interface of the provider source. -/
def interface (recipe : Recipe) (files : FileStore) : Except BuildError Interface :=
  match recipe.providerSource with
  | none => .error .providerSourceUnset
  | some path => do
    let source ← readInput files path
    match extractSignatures recipe.names.exportPrefix source with
    | .error e => throw (.extraction path e)
    | .ok signatures =>
      let interface : Interface := ⟨recipe.names, Slot.assign signatures, recipe.doc⟩
      match interface.validate with
      | .error e => throw (.validation e)
      | .ok () => return interface

def typeDefinitionsText (recipe : Recipe) (files : FileStore) : Except BuildError String :=
  match recipe.typeDefinitions with
  | none => .error .typeDefinitionsUnset
  | some path =>
    if files.isFile path then readInput files path else .error (.typeDefinitionsMissing path)

/-- The text of the header. Type definitions are looked for first. -/
def header (recipe : Recipe) (files : FileStore) : Except BuildError String := do
  let typeDefinitions ← recipe.typeDefinitionsText files
  let interface ← recipe.interface files
  return interface.header typeDefinitions

def resolver (recipe : Recipe) : Version.Resolver :=
  let resolver := Version.Resolver.ofRoot recipe.sourceRoot
  { resolver with
    timeout := recipe.timeout
    fallback := recipe.versionFile.getD resolver.fallback }

def version (recipe : Recipe) (host : Host) : Except BuildError String :=
  match recipe.fixedVersion with
  | some version => .ok version
  | none =>
    match recipe.resolver.resolve host with
    | .ok (version, _) => .ok version
    | .error e => .error (.version e)

def hasTables (recipe : Recipe) : Bool := recipe.opcodes.isSome && recipe.elementTypes.isSome

/-- The operations and the native type names of the tables. -/
def operations (recipe : Recipe) (files : FileStore) :
    Except BuildError (NameMap Operation × List String) :=
  match recipe.opcodes, recipe.elementTypes with
  | some opcodesPath, some typesPath => do
    let opcodes ← (files.readOpcodes opcodesPath).mapError .table
    let types ← (files.readElementTypes typesPath).mapError .table
    let operations ← (Opcode.compile types recipe.opcodePrefix opcodes).mapError .compilation
    return (operations, ElementType.supported types)
  | _, _ => .error .tablesUnset

/-- The call of the describe command that the version takes. -/
def versionCall? (recipe : Recipe) (host : Host) : Option (List String × Location) :=
  match recipe.fixedVersion with
  | some _ => none
  | none => recipe.resolver.call? host

/-- The call of the describe command that the info artifact takes. -/
def infoCall? (recipe : Recipe) (host : Host) : Option (List String × Location) :=
  match recipe.operations host.files with
  | .ok _ => recipe.versionCall? host
  | .error _ => none

/-- The info artifact. The version is resolved last. -/
def info (recipe : Recipe) (host : Host) : Except BuildError Info := do
  let (operations, types) ← recipe.operations host.files
  let version ← recipe.version host
  return ⟨version, operations, types⟩

def infoText (recipe : Recipe) (host : Host) : Except BuildError String := do
  let info ← recipe.info host
  return info.text recipe.format

end Recipe

end ExportTable
