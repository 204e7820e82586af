import ExportTable.Info.Json
import ExportTable.Info.Python

/-!
# The info artifact as a file
-/

namespace ExportTable.Info

def text (info : Info) : InfoFormat → String
  | .json => info.jsonText
  | .python => info.pythonText

end ExportTable.Info
