import ExportTable.Info

/-!
# The info artifact as a Python module

The module defines `__version__`, a dictionary `op` and a function `numpy_types`. A text is written
between single quotes with the backslash and the quote escaped and every other character as it is.
-/

namespace ExportTable.Info.Python

def escapeChar : Char → List Char
  | '\\' => ['\\', '\\']
  | '\'' => ['\\', '\'']
  | c => [c]

def literal (s : String) : String := String.ofList ('\'' :: s.toList.flatMap escapeChar ++ ['\''])

/-- Items between square brackets. -/
def list (items : List String) : String := "[" ++ String.intercalate ", " items ++ "]"

def rows (rows : List (List String)) : String := list (rows.map fun row ↦ list (row.map literal))

def bool (b : Bool) : String := if b then "True" else "False"

/-- The entry of one operation. -/
def entry (name : String) (o : Operation) : String :=
  "  " ++ literal name ++ ": \x7b'elementwise': " ++ bool o.elementwise ++
    ", 'id': " ++ toString o.id ++
    ", 'name': " ++ literal o.name ++
    ", 'nop': " ++ toString o.operands ++
    ", 'type_sig': " ++ rows o.rows ++ "\x7d,\n"

end Python

/-- The artifact as a Python module. -/
def pythonText (info : Info) : String :=
  "# This file is auto generated by bhapi-weld\n" ++
  "\n# Info variables:\n" ++
  "__version__ = " ++ Python.literal info.version ++ "\n" ++
  "\n" ++
  "op = \x7b\n" ++
  String.join (info.operations.bindings.map fun (name, o) ↦ Python.entry name o) ++
  "\x7d\n\n" ++
  "def numpy_types():\n" ++
  "    import numpy\n" ++
  "    return " ++
  Python.list (info.types.map fun t ↦ "numpy.dtype(" ++ Python.literal t ++ ")") ++ "\n"

end ExportTable.Info
