import ExportTable.Json.Draft
import ExportTable.Text.Blank
import ExportTable.Text.Decimal
import ExportTable.Text.Quoted

/-!
# Reading drafts

A reader takes a draft to a value of some type, or reports the first problem in reading order. Most
problems are a violation of the grammar or a value of a wrong shape, and are not told apart.

Hand-edited tables may write a number as a string and a truth value as a number. Their readers are
the lenient ones.
-/

namespace ExportTable.Json

inductive ReadError where
  /-- The text is no JSON, or has another shape than the record. -/
  | unfit
  | notInteger (text : String)
  | outOfRange (n : Nat)
  | missingField (name : String)
  | duplicateField (name : String)
  deriving DecidableEq, Repr

/-- Only the problems of single fields are worded. -/
def ReadError.message? : ReadError → Option String
  | unfit => none
  | notInteger text => some s!"expected an integer, found {Text.quoted text}"
  | outOfRange n => some s!"{n} is out of range"
  | missingField name => some s!"missing field `{name}`"
  | duplicateField name => some s!"duplicate field `{name}`"

abbrev Reader (α : Type) := Draft → Except ReadError α

/-- Reads a whole text. -/
def Reader.readText (read : Reader α) (text : String) : Except ReadError α := do
  let document := Document.read text
  let a ← read document.root
  if document.complete then .ok a else .error .unfit

namespace Reader

def ofOption : Option α → Except ReadError α
  | some a => .ok a
  | none => .error .unfit

def text : Reader String
  | .string value => ofOption value
  | _ => .error .unfit

def bool : Reader Bool
  | .bool b => .ok b
  | _ => .error .unfit

/-- A natural number below a bound. -/
def natural (bound : Nat) : Reader Nat
  | .number n => ofOption (n.natural?.filter (· < bound))
  | _ => .error .unfit

/-- Reads items in order. -/
def all (read : Reader α) : List Draft → Except ReadError (List α)
  | [] => .ok []
  | d :: ds => do
    let a ← read d
    let rest ← all read ds
    return a :: rest

def list (read : Reader α) : Reader (List α)
  | .array items closed => do
    let l ← all read items
    if closed then .ok l else .error .unfit
  | _ => .error .unfit

/-- `null` stands for no value. -/
def option (read : Reader α) : Reader (Option α)
  | .null => .ok none
  | d => (read d).map some

/-- A number of 32 bits, given as a number or as a string that holds its digits. -/
def lenientNatural : Reader Nat := fun d ↦ do
  let n ← match d with
    | .number n => ofOption (n.natural?.filter (· < UInt64.size))
    | .string (some s) =>
      match Text.unsigned? UInt64.size (Text.trim s.toList) with
      | some n => .ok n
      | none => .error (.notInteger s)
    | _ => .error .unfit
  if n < UInt32.size then .ok n else .error (.outOfRange n)

/-- A truth value, given as such or as a number of 64 bits with sign, of which zero is false. -/
def lenientBool : Reader Bool
  | .bool b => .ok b
  | .number n => ofOption <| do
    let i ← n.integer?
    if -0x8000000000000000 ≤ i ∧ i < 0x8000000000000000 then some (decide (i ≠ 0)) else none
  | _ => .error .unfit

end Reader

end ExportTable.Json
