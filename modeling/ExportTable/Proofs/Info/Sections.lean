import ExportTable.Info.Text

/-!
# Sections of the info artifact

In either format an artifact has three sections, each the text of one part of the info: the version,
the operations, and the types. So the section of the operations is the same whatever the version and
the types are.
-/

namespace ExportTable

namespace InfoFormat

/-- What an info artifact begins with, up to its version. -/
def lead : InfoFormat → String
  | json => "\x7b\n  \"version\": "
  | python => "# This file is auto generated by bhapi-weld\n\n# Info variables:\n__version__ = "

/-- A text as a literal of the format. -/
def literal (text : String) : InfoFormat → String
  | json => (Json.Value.string text).compactText
  | python => Info.Python.literal text

/-- What stands between the version and the operations. -/
def versionEnd : InfoFormat → String
  | json => ",\n"
  | python => "\n\n"

/-- The start of an artifact, up to the section of its operations. -/
def versionSection (version : String) (format : InfoFormat) : String :=
  format.lead ++ format.literal version ++ format.versionEnd

def operationSection (operations : NameMap Operation) : InfoFormat → String
  | json => "  \"op\": " ++ String.ofList ((operations.toJson Operation.toJson).prettyAt 1) ++ ",\n"
  | python =>
    "op = \x7b\n" ++
      String.join (operations.bindings.map fun (name, o) ↦ Info.Python.entry name o) ++ "\x7d\n\n"

/-- The rest of an artifact, after the section of its operations. -/
def typeSection (types : List String) : InfoFormat → String
  | json =>
    "  \"types\": " ++ String.ofList ((Json.Value.ofList .string types).prettyAt 1) ++ "\n\x7d\n"
  | python =>
    "def numpy_types():\n    import numpy\n    return " ++
      Info.Python.list (types.map fun t ↦ "numpy.dtype(" ++ Info.Python.literal t ++ ")") ++ "\n"

end InfoFormat

namespace Info

theorem jsonText_eq_sections (info : Info) :
    info.jsonText =
      InfoFormat.versionSection info.version .json ++
        InfoFormat.operationSection info.operations .json ++
        InfoFormat.typeSection info.types .json := by
  have hversion : Json.escape "version" = "\"version\"".toList := by decide
  have hop : Json.escape "op" = "\"op\"".toList := by decide
  have htypes : Json.escape "types" = "\"types\"".toList := by decide
  unfold jsonText toJson InfoFormat.versionSection InfoFormat.operationSection
    InfoFormat.typeSection
  generalize info.operations.toJson Operation.toJson = operations
  generalize Json.Value.ofList .string info.types = types
  apply String.toList_inj.mp
  simp [InfoFormat.lead, InfoFormat.literal, InfoFormat.versionEnd, Json.Value.prettyText,
    Json.Value.prettyAt, Json.Value.prettyMembers, Json.Value.newline, Json.Value.compactText,
    Json.Value.compact, hversion, hop, htypes]

theorem pythonText_eq_sections (info : Info) :
    info.pythonText =
      InfoFormat.versionSection info.version .python ++
        InfoFormat.operationSection info.operations .python ++
        InfoFormat.typeSection info.types .python := by
  have hlead : InfoFormat.lead .python = "# This file is auto generated by bhapi-weld\n" ++
      "\n# Info variables:\n" ++ "__version__ = " := by
    simp [InfoFormat.lead]
  have hend : InfoFormat.versionEnd .python = "\n" ++ "\n" := by simp [InfoFormat.versionEnd]
  have htypes : "def numpy_types():\n    import numpy\n    return " =
      "def numpy_types():\n" ++ "    import numpy\n" ++ "    return " := by
    simp
  delta pythonText InfoFormat.versionSection InfoFormat.operationSection InfoFormat.typeSection
  rw [hlead, hend, InfoFormat.literal]
  simp only [htypes, String.append_assoc, -String.reduceAppend]

theorem text_eq_sections (info : Info) (format : InfoFormat) :
    info.text format =
      format.versionSection info.version ++ format.operationSection info.operations ++
        format.typeSection info.types := by
  cases format with
  | json => exact info.jsonText_eq_sections
  | python => exact info.pythonText_eq_sections

theorem exists_text_eq_append (info : Info) (format : InfoFormat) :
    ∃ rest, info.text format = format.lead ++ format.literal info.version ++ rest := by
  rw [text_eq_sections, InfoFormat.versionSection]
  simp only [String.append_assoc]
  exact ⟨_, rfl⟩

end Info

end ExportTable
