import ExportTable.Text.Hexadecimal

/-!
# String literals of JSON

`escape` writes a text between quotes; only the quote, the backslash and the control characters are
written otherwise than by themselves. `scanLiteral` reads what stands after an opening quote. A text
beyond the first plane may be written as two escaped units of sixteen bits; a unit that finds no
partner leaves the literal without a value, though it is a literal of the grammar.
-/

namespace ExportTable.Json

/-- A part of a literal: a character, or an escaped unit of sixteen bits. -/
inductive LiteralPart where
  | char (c : Char)
  | unit (n : Nat)
  deriving DecidableEq, Repr

/-- What a backslash and the given character stand for. -/
def simpleEscape? : Char → Option Char
  | '"' => some '"'
  | '\\' => some '\\'
  | '/' => some '/'
  | 'b' => some '\x08'
  | 'f' => some '\x0c'
  | 'n' => some '\n'
  | 'r' => some '\r'
  | 't' => some '\t'
  | _ => none

/-- The parts of a literal after its opening quote, and the text after its closing quote. -/
def scanParts : List Char → Option (List LiteralPart × List Char)
  | [] => none
  | '"' :: rest => some ([], rest)
  | '\\' :: 'u' :: a :: b :: c :: d :: rest => do
    let n ← Text.hexValue? [a, b, c, d]
    let (parts, rest) ← scanParts rest
    return (.unit n :: parts, rest)
  | '\\' :: c :: rest => do
    let e ← simpleEscape? c
    let (parts, rest) ← scanParts rest
    return (.char e :: parts, rest)
  | c :: rest =>
    if c < ' ' then none
    else do
      let (parts, rest) ← scanParts rest
      return (.char c :: parts, rest)

def isHighUnit (n : Nat) : Bool := 0xD800 ≤ n && n ≤ 0xDBFF

def isLowUnit (n : Nat) : Bool := 0xDC00 ≤ n && n ≤ 0xDFFF

/-- The text of the parts, unless a unit lacks its partner. -/
def joinParts : List LiteralPart → Option (List Char)
  | [] => some []
  | .char c :: parts => (joinParts parts).map (c :: ·)
  | .unit high :: .unit low :: parts =>
    if isHighUnit high then
      if isLowUnit low then
        (joinParts parts).map
          (Char.ofNat (0x10000 + (high - 0xD800) * 0x400 + (low - 0xDC00)) :: ·)
      else
        none
    else if isLowUnit high then none
    else (joinParts (.unit low :: parts)).map (Char.ofNat high :: ·)
  | .unit n :: parts =>
    if isHighUnit n ∨ isLowUnit n then none else (joinParts parts).map (Char.ofNat n :: ·)

/-- The value of the literal whose opening quote is read, and the text after it. -/
def scanLiteral (cs : List Char) : Option (Option String × List Char) :=
  (scanParts cs).map fun (parts, rest) ↦ ((joinParts parts).map String.ofList, rest)

def hexDigit (n : Nat) : Char := Nat.digitChar n

def escapeChar (c : Char) : List Char :=
  match c with
  | '"' => ['\\', '"']
  | '\\' => ['\\', '\\']
  | '\x08' => ['\\', 'b']
  | '\x0c' => ['\\', 'f']
  | '\n' => ['\\', 'n']
  | '\r' => ['\\', 'r']
  | '\t' => ['\\', 't']
  | c =>
    if c < ' ' then ['\\', 'u', '0', '0', hexDigit (c.toNat / 16), hexDigit (c.toNat % 16)]
    else [c]

def escape (s : String) : List Char := '"' :: s.toList.flatMap escapeChar ++ ['"']

end ExportTable.Json
