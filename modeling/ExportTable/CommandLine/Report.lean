import ExportTable.Configuration.Load
import ExportTable.Recipe

/-!
# Error reports

A report says what was to be done, and then why it failed: the error and, below it, each error that
caused the one before. The causes are numbered if there is more than one.
-/

namespace ExportTable

/-- An error and what it comes from, the nearest first. -/
abbrev Causes := List String

def Configuration.LoadError.causes (e : LoadError) : Causes :=
  match e with
  | unreadable _ inner => [e.message, inner.message]
  | invalid _ inner => [e.message, inner.message]

def Version.ResolveError.causes (e : ResolveError) : Causes :=
  match e with
  | unavailable _ _ _ inner => [e.message, inner.message]
  | emptyFile .. => [e.message]

def TableError.causes (e : TableError) : Causes :=
  match e with
  | unreadable _ inner => [e.message, inner.message]
  | invalid _ inner => e.message :: inner.message?.toList

def BuildError.causes (e : BuildError) : Causes :=
  e.message ::
    match e with
    | io inner => [inner.message]
    | unreadable _ inner => [inner.message]
    | extraction _ inner => [inner.message]
    | validation inner => [inner.message]
    | table inner => inner.causes
    | compilation inner => [inner.message]
    | version inner => inner.causes
    | outDirUnset | providerSourceUnset | typeDefinitionsUnset | typeDefinitionsMissing _
    | tablesUnset => []

structure Report where
  context : String
  causes : Causes
  deriving DecidableEq, Repr

namespace Report

/-- Puts blanks before every line but the first. -/
def indented (blanks : Nat) (text : String) : String :=
  String.ofList (text.toList.flatMap fun c ↦
    if c = '\n' then '\n' :: List.replicate blanks ' ' else [c])

def numbered (index : Nat) (cause : String) : String :=
  String.ofList ((Text.digits index).leftpad 5 ' ') ++ ": " ++ indented 7 cause ++ "\n"

def causesText : Causes → String
  | [cause] => "    " ++ indented 4 cause ++ "\n"
  | causes => String.join (causes.mapIdx numbered)

def text (report : Report) : String :=
  s!"Error: {report.context}\n\nCaused by:\n" ++ causesText report.causes

end Report

end ExportTable
