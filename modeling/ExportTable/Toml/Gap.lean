/-!
# Blanks, comments and line ends of TOML
-/

namespace ExportTable.Toml

def isBlank (c : Char) : Bool := c == ' ' || c == '\t'

def isNonAscii (c : Char) : Bool := 0x80 ≤ c.toNat

/-- The characters that comments and literal strings may hold. -/
def isVisible (c : Char) : Bool := c == '\t' || (' ' ≤ c && c ≤ '~') || isNonAscii c

def skipBlanks (cs : List Char) : List Char := cs.dropWhile isBlank

def skipComment : List Char → List Char
  | '#' :: cs => cs.dropWhile isVisible
  | cs => cs

/-- The text after a line end. -/
def newline? : List Char → Option (List Char)
  | '\n' :: cs => some cs
  | '\r' :: '\n' :: cs => some cs
  | _ => none

/-- The text after a line that holds nothing more but blanks and a comment. -/
def endLine? (cs : List Char) : Option (List Char) :=
  match skipComment (skipBlanks cs) with
  | [] => some []
  | rest => newline? rest

/-- Skips blanks, line ends and comments. -/
def skipGaps (inComment : Bool) : List Char → List Char
  | [] => []
  | '\r' :: '\n' :: cs => skipGaps false cs
  | c :: cs =>
    if c = '\n' then skipGaps false cs
    else if inComment then if isVisible c then skipGaps true cs else c :: cs
    else if isBlank c then skipGaps false cs
    else if c = '#' then skipGaps true cs
    else c :: cs

end ExportTable.Toml
