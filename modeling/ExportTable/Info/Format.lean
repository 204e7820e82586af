/-!
# Formats of the info artifact
-/

namespace ExportTable

inductive InfoFormat where
  | json
  | python
  deriving DecidableEq, Repr

namespace InfoFormat

/-- The name of the file that holds an artifact in this format. -/
def fileName : InfoFormat → String
  | json => "_info.json"
  | python => "_info.py"

def word : InfoFormat → String
  | json => "json"
  | python => "python"

structure UnknownName where
  /-- In lower case. -/
  name : String
  deriving DecidableEq, Repr

def UnknownName.message (e : UnknownName) : String :=
  s!"unknown info format: {e.name} (expected json or python)"

/-- The format of a name; ASCII letters may have either case. -/
def ofName (name : String) : Except UnknownName InfoFormat :=
  match name.toLower with
  | "json" => .ok json
  | "python" | "py" => .ok python
  | lowered => .error ⟨lowered⟩

theorem ofName_word (format : InfoFormat) : ofName format.word = .ok format := by
  have hjson : "json".toLower = "json" := by decide +kernel
  have hpython : "python".toLower = "python" := by decide +kernel
  cases format <;> simp only [word, ofName, hjson, hpython]

end InfoFormat

end ExportTable
