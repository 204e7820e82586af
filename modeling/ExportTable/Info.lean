import ExportTable.NameMap
import ExportTable.Operation

/-!
# The info artifact

What a build tells about itself: its version, the public operations, and the native names of the
element types.
-/

namespace ExportTable

structure Info where
  version : String
  operations : NameMap Operation
  types : List String
  deriving DecidableEq, Repr

end ExportTable
