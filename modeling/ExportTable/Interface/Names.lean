/-!
# The names of an interface

Nine names appear in a header: eight C identifiers, and the capsule key, which stands in a C string
literal.
-/

namespace ExportTable.Interface

structure Names where
  /-- What every exported symbol starts with, before an underscore. -/
  exportPrefix : String := "BhAPI"
  /-- The include guard. -/
  guard : String := "BH_API_H"
  /-- Defined only where the provider is compiled. -/
  moduleFlag : String := "BhAPI_MODULE"
  /-- Defined by consumer files that refer to the table and do not define it. -/
  noImportFlag : String := "NO_IMPORT_BH_API"
  tableName : String := "PyBhAPI"
  /-- The provider's function that fills the table. -/
  initFunction : String := "init_c_api_struct"
  /-- The consumer's function that fetches the table. -/
  importFunction : String := "import_bh_api"
  /-- Under which the provider publishes the table. -/
  capsuleKey : String := "bohrium_api._C_API"
  /-- Maps a capsule key to a table. -/
  lookupFunction : String := "PyCapsule_Import"
  deriving DecidableEq, Repr

namespace Names

/-- The macro that holds the number of functions. -/
def countMacro (names : Names) : String := names.exportPrefix ++ "_num_of_pointers"

end Names

inductive NameField where
  | exportPrefix
  | guard
  | moduleFlag
  | noImportFlag
  | tableName
  | initFunction
  | importFunction
  | capsuleKey
  | lookupFunction
  deriving DecidableEq, Repr

namespace NameField

def label : NameField → String
  | exportPrefix => "prefix"
  | guard => "guard"
  | moduleFlag => "module_flag"
  | noImportFlag => "no_import_flag"
  | tableName => "table_name"
  | initFunction => "init_function"
  | importFunction => "import_function"
  | capsuleKey => "capsule_key"
  | lookupFunction => "lookup_function"

/-- All fields, in declaration order. -/
def all : List NameField :=
  [exportPrefix, guard, moduleFlag, noImportFlag, tableName, initFunction, importFunction,
   capsuleKey, lookupFunction]

theorem mem_all (field : NameField) : field ∈ all := by cases field <;> decide

def ofLabel? (label : String) : Option NameField := all.find? (·.label = label)

/-- The fields that hold C identifiers, in the order in which they are checked. -/
def identifiers : List NameField :=
  [exportPrefix, guard, moduleFlag, noImportFlag, tableName, initFunction, importFunction,
   lookupFunction]

end NameField

def Names.get (names : Names) : NameField → String
  | .exportPrefix => names.exportPrefix
  | .guard => names.guard
  | .moduleFlag => names.moduleFlag
  | .noImportFlag => names.noImportFlag
  | .tableName => names.tableName
  | .initFunction => names.initFunction
  | .importFunction => names.importFunction
  | .capsuleKey => names.capsuleKey
  | .lookupFunction => names.lookupFunction

def Names.set (names : Names) (field : NameField) (value : String) : Names :=
  match field with
  | .exportPrefix => { names with exportPrefix := value }
  | .guard => { names with guard := value }
  | .moduleFlag => { names with moduleFlag := value }
  | .noImportFlag => { names with noImportFlag := value }
  | .tableName => { names with tableName := value }
  | .initFunction => { names with initFunction := value }
  | .importFunction => { names with importFunction := value }
  | .capsuleKey => { names with capsuleKey := value }
  | .lookupFunction => { names with lookupFunction := value }

theorem Names.get_set (names : Names) (field other : NameField) (value : String) :
    (names.set field value).get other = if other = field then value else names.get other := by
  cases field <;> cases other <;> rfl

theorem NameField.mem_identifiers_iff {field : NameField} :
    field ∈ NameField.identifiers ↔ field ≠ .capsuleKey := by
  cases field <;> decide

end ExportTable.Interface
