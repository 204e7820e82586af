import ExportTable.Configuration.Toml
import ExportTable.FileStore

/-!
# Loading configuration files
-/

namespace ExportTable.Configuration

/-- The name of the file that is read where no other one is given. -/
def fileName : Path := "bhapi.toml"

inductive LoadError where
  | unreadable (path : Path) (error : IoError)
  | invalid (path : Path) (error : DecodeError)
  deriving DecidableEq, Repr

/-- The wording of a text that is no configuration. -/
def DecodeError.message (e : DecodeError) : String :=
  match e.message? with
  | some message => "TOML parse error: " ++ message
  | none => "TOML parse error"

def LoadError.message : LoadError → String
  | unreadable path e => s!"failed to read config {path}: {e.message}"
  | invalid path e => s!"failed to parse config {path}: {e.message}"

/-- The configuration in a file, its paths put below the directory of the file. -/
def load (files : FileStore) (path : Path) : Except LoadError Configuration :=
  match files.readText path with
  | .error e => .error (.unreadable path e)
  | .ok text =>
    match ofToml text with
    | .error e => .error (.invalid path e)
    | .ok c => .ok (c.resolve (path.parent?.getD "."))

end ExportTable.Configuration
