import ExportTable.Info.Format
import ExportTable.Interface.Names
import ExportTable.Operation
import ExportTable.Path

/-!
# Configurations

A configuration says where the inputs are found, where the outputs go, and how both artifacts are
written. Relative paths of a configuration file are meant from the directory that holds it;
`Paths.resolve` makes them so.
-/

namespace ExportTable

namespace Configuration

structure Paths where
  /-- The root of the source tree, whose version is described. -/
  sourceRoot : Path := "."
  providerSource : Option Path := none
  typeDefinitions : Option Path := none
  opcodes : Option Path := none
  elementTypes : Option Path := none
  versionFile : Option Path := none
  outDir : Path := "out"
  headerName : String := "bohrium_api.h"
  deriving DecidableEq, Repr

/-- Puts relative paths below a base. The name of the header is no path. -/
def Paths.resolve (paths : Paths) (base : Path) : Paths where
  sourceRoot := base.join paths.sourceRoot
  providerSource := paths.providerSource.map base.join
  typeDefinitions := paths.typeDefinitions.map base.join
  opcodes := paths.opcodes.map base.join
  elementTypes := paths.elementTypes.map base.join
  versionFile := paths.versionFile.map base.join
  outDir := base.join paths.outDir
  headerName := paths.headerName

structure Metadata where
  opcodePrefix : String := Opcode.defaultPrefix
  format : InfoFormat := .json
  /-- How long the describe command may take. -/
  timeoutSeconds : Nat := 10
  deriving DecidableEq, Repr

end Configuration

structure Configuration where
  paths : Configuration.Paths := {}
  names : Interface.Names := {}
  metadata : Configuration.Metadata := {}
  deriving DecidableEq, Repr

namespace Configuration

def resolve (c : Configuration) (base : Path) : Configuration :=
  { c with paths := c.paths.resolve base }

end Configuration

end ExportTable
