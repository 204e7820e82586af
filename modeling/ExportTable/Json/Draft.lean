import ExportTable.Json.Token

/-!
# JSON texts as far as they can be read

A draft is the value that a text spells, read from left to right up to the first violation of the
grammar. A container is closed only if its end mark was read, so a container that holds something
broken is itself open. Readers of records go through a draft in reading order and thereby report the
first problem of a text, be it in its grammar or in its meaning.
-/

namespace ExportTable.Json

inductive Draft where
  | null
  | bool (b : Bool)
  | number (n : Numeral)
  /-- A string has no value where an escaped unit lacks its partner. -/
  | string (value : Option String)
  | array (items : List Draft) (closed : Bool)
  /-- A member whose colon or value is missing has a broken value. -/
  | object (members : List (Option String × Draft)) (closed : Bool)
  | broken
  deriving Repr

mutual

/-- The value that starts a token list; the tokens after it, unless the value breaks off. -/
def Draft.value : Nat → List Token → Draft × Option (List Token)
  | 0, _ => (.broken, none)
  | fuel + 1, tokens =>
    match tokens with
    | .null :: rest => (.null, some rest)
    | .bool b :: rest => (.bool b, some rest)
    | .number n :: rest => (.number n, some rest)
    | .string value :: rest => (.string value, some rest)
    | .openArray :: .closeArray :: rest => (.array [] true, some rest)
    | .openArray :: rest =>
      let (items, rest) := Draft.items fuel rest
      (.array items rest.isSome, rest)
    | .openObject :: .closeObject :: rest => (.object [] true, some rest)
    | .openObject :: rest =>
      let (members, rest) := Draft.members fuel rest
      (.object members rest.isSome, rest)
    | _ => (.broken, none)

/-- The items up to the end of an array. -/
def Draft.items : Nat → List Token → List Draft × Option (List Token)
  | 0, _ => ([.broken], none)
  | fuel + 1, tokens =>
    match Draft.value fuel tokens with
    | (item, some (.comma :: rest)) =>
      let (items, rest) := Draft.items fuel rest
      (item :: items, rest)
    | (item, some (.closeArray :: rest)) => ([item], some rest)
    | (item, _) => ([item], none)

/-- The members up to the end of an object. -/
def Draft.members : Nat → List Token → List (Option String × Draft) × Option (List Token)
  | 0, _ => ([], none)
  | fuel + 1, tokens =>
    match tokens with
    | .string key :: .colon :: rest =>
      match Draft.value fuel rest with
      | (value, some (.comma :: rest)) =>
        let (members, rest) := Draft.members fuel rest
        ((key, value) :: members, rest)
      | (value, some (.closeObject :: rest)) => ([(key, value)], some rest)
      | (value, _) => ([(key, value)], none)
    | .string key :: _ => ([(key, .broken)], none)
    | _ => ([], none)

end

/-- A text: its value, and whether nothing but white space follows the value. -/
structure Document where
  root : Draft
  complete : Bool
  deriving Repr

def Document.ofTokens (tokens : List Token) : Document :=
  match Draft.value (2 * tokens.length + 1) tokens with
  | (root, rest) => ⟨root, decide (rest = some [])⟩

def Document.read (text : String) : Document := .ofTokens (tokens text.toList)

namespace Draft

/-- Whether the value was read to its end. -/
def isWhole : Draft → Bool
  | array _ closed => closed
  | object _ closed => closed
  | broken => false
  | _ => true

/-- The deepest nesting of containers that a value to be kept may have. -/
def maximalDepth : Nat := 127

mutual

/-- Whether the value, which stands inside `depth` containers, can be kept for later: all strings
have values, all numbers are in the range of doubles, and containers are not nested too deeply. -/
def isKeepable (depth : Nat) : Draft → Bool
  | number n => !n.exceedsDouble
  | string value => value.isSome
  | array items closed => closed && depth < maximalDepth && allKeepable (depth + 1) items
  | object members closed => closed && depth < maximalDepth && membersKeepable (depth + 1) members
  | broken => false
  | _ => true

def allKeepable (depth : Nat) : List Draft → Bool
  | [] => true
  | item :: items => item.isKeepable depth && allKeepable depth items

def membersKeepable (depth : Nat) : List (Option String × Draft) → Bool
  | [] => true
  | (key, value) :: members =>
    key.isSome && value.isKeepable depth && membersKeepable depth members

end

end Draft

end ExportTable.Json
