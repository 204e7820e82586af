/-!
# C identifiers

An identifier is a letter or underscore followed by letters, digits and underscores, all ASCII.
-/

namespace ExportTable.CSource

def startsIdentifier (c : Char) : Bool := c.isAlpha || c == '_'

def continuesIdentifier (c : Char) : Bool := c.isAlphanum || c == '_'

def isIdentifier (s : String) : Bool :=
  match s.toList with
  | [] => false
  | c :: cs => startsIdentifier c && cs.all continuesIdentifier

end ExportTable.CSource
