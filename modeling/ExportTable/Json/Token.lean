import ExportTable.Json.Literal
import ExportTable.Json.Numeral

/-!
# Tokens of JSON

A text is read up to the first place where no token starts. That place is marked by a token of its
own, so that whatever reads the tokens meets it after everything before it.
-/

namespace ExportTable.Json

inductive Token where
  | openArray
  | closeArray
  | openObject
  | closeObject
  | colon
  | comma
  | null
  | bool (b : Bool)
  | number (n : Numeral)
  /-- A string has no value where an escaped unit lacks its partner. -/
  | string (value : Option String)
  /-- No token starts here. -/
  | broken
  deriving DecidableEq, Repr

def isGap (c : Char) : Bool := c == ' ' || c == '\t' || c == '\n' || c == '\r'

def mark? : Char → Option Token
  | '[' => some .openArray
  | ']' => some .closeArray
  | '\x7b' => some .openObject
  | '\x7d' => some .closeObject
  | ':' => some .colon
  | ',' => some .comma
  | _ => none

/-- The token that starts the text and is no mark, and the text after it. -/
def scanToken? (cs : List Char) : Option (Token × List Char) :=
  match cs with
  | '"' :: rest => (scanLiteral rest).map fun (value, rest) ↦ (.string value, rest)
  | 't' :: 'r' :: 'u' :: 'e' :: rest => some (.bool true, rest)
  | 'f' :: 'a' :: 'l' :: 's' :: 'e' :: rest => some (.bool false, rest)
  | 'n' :: 'u' :: 'l' :: 'l' :: rest => some (.null, rest)
  | _ => (scanNumeral cs).map fun (n, rest) ↦ (.number n, rest)

/-- The tokens of a text, at most `fuel` of them. -/
def tokensWithin : Nat → List Char → List Token
  | 0, _ => []
  | fuel + 1, cs =>
    match cs with
    | [] => []
    | c :: rest =>
      if isGap c then tokensWithin fuel rest
      else
        match mark? c with
        | some token => token :: tokensWithin fuel rest
        | none =>
          match scanToken? cs with
          | some (token, rest) => token :: tokensWithin fuel rest
          | none => [.broken]

def tokens (text : List Char) : List Token := tokensWithin text.length text

end ExportTable.Json
