import ExportTable.Json.Literal

/-!
# JSON values and their texts

Every value has a compact text, without white space, and a pretty text, in which each item and each
member of a container that is not empty stands on a line of its own, indented by two blanks a level.
-/

namespace ExportTable.Json

inductive Value where
  | null
  | bool (b : Bool)
  | number (n : Nat)
  | string (s : String)
  | array (items : List Value)
  | object (members : List (String × Value))
  deriving Repr

namespace Value

def ofList (encode : α → Value) (l : List α) : Value := array (l.map encode)

def ofOption (encode : α → Value) : Option α → Value
  | none => null
  | some a => encode a

/-- The text of a value that is no container. -/
def scalarText : Value → List Char
  | null => ['n', 'u', 'l', 'l']
  | bool true => ['t', 'r', 'u', 'e']
  | bool false => ['f', 'a', 'l', 's', 'e']
  | number n => Nat.toDigits 10 n
  | string s => escape s
  | array _ | object _ => []

mutual

def compact : Value → List Char
  | array items => '[' :: compactItems items ++ [']']
  | object members => '\x7b' :: compactMembers members ++ ['\x7d']
  | v => v.scalarText

def compactItems : List Value → List Char
  | [] => []
  | [item] => item.compact
  | item :: items => item.compact ++ ',' :: compactItems items

def compactMembers : List (String × Value) → List Char
  | [] => []
  | [(key, value)] => escape key ++ ':' :: value.compact
  | (key, value) :: members => escape key ++ ':' :: value.compact ++ ',' :: compactMembers members

end

/-- The start of a line at a level. -/
def newline (level : Nat) : List Char := '\n' :: List.replicate (2 * level) ' '

mutual

/-- The pretty text of a value whose own line is at a level. -/
def prettyAt (level : Nat) : Value → List Char
  | array [] => ['[', ']']
  | array items => '[' :: prettyItems (level + 1) items ++ newline level ++ [']']
  | object [] => ['\x7b', '\x7d']
  | object members => '\x7b' :: prettyMembers (level + 1) members ++ newline level ++ ['\x7d']
  | v => v.scalarText

def prettyItems (level : Nat) : List Value → List Char
  | [] => []
  | [item] => newline level ++ item.prettyAt level
  | item :: items => newline level ++ item.prettyAt level ++ ',' :: prettyItems level items

def prettyMembers (level : Nat) : List (String × Value) → List Char
  | [] => []
  | [(key, value)] => newline level ++ escape key ++ ':' :: ' ' :: value.prettyAt level
  | (key, value) :: members =>
    newline level ++ escape key ++ ':' :: ' ' :: value.prettyAt level ++
      ',' :: prettyMembers level members

end

def compactText (v : Value) : String := String.ofList v.compact

def prettyText (v : Value) : String := String.ofList (v.prettyAt 0)

end Value

end ExportTable.Json
