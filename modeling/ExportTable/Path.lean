/-!
# Paths

A path is a text of segments with slashes between them; one that starts with a slash is absolute.
Paths are put together as texts, and nothing in them is simplified.
-/

namespace ExportTable

abbrev Path := String

namespace Path

def isAbsolute (path : Path) : Bool := path.toList.head? = some '/'

/-- The text that starts a path below the base. -/
def asBase (base : Path) : List Char :=
  if base = "" ∨ base.toList.getLast? = some '/' then base.toList else base.toList ++ ['/']

/-- An absolute path is what it is below every base. -/
def join (base path : Path) : Path :=
  if path.isAbsolute then path else String.ofList (base.asBase ++ path.toList)

def segments (path : Path) : List (List Char) := path.toList.splitOn '/'

/-- A segment that leads nowhere, if it is not the first one. -/
def isIdle (segment : List Char) : Bool := segment = [] || segment = ['.']

def dropIdleEnd (segments : List (List Char)) : List (List Char) :=
  (segments.reverse.dropWhile isIdle).reverse

def ofSegments (segments : List (List Char)) : Path :=
  if segments = [[]] then "/" else String.ofList (['/'].intercalate segments)

/-- The path without its last segment, idle segments at the end left aside. The root and the empty
path have no parent. -/
def parent? (path : Path) : Option Path :=
  match path.segments with
  | [] => none
  | first :: rest =>
    match dropIdleEnd rest with
    | [] => if first = [] then none else some ""
    | kept => some (ofSegments (first :: dropIdleEnd kept.dropLast))

end Path

end ExportTable
