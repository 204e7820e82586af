import ExportTable.Json.Record
import ExportTable.Json.Value
import ExportTable.Signature

/-!
# Signatures and slots in JSON

A slot is an object that holds its index beside the members of its signature. Its members other than
the index are kept until the object ends, and are then read as those of a signature.
-/

namespace ExportTable

open Json

namespace Signature

def record : Record Signature :=
  Signature.mk <$> .field "return_type" .text <*> .field "name" .text <*>
    .field "parameter_list" .text

def members (f : Signature) : List (String × Json.Value) :=
  [("return_type", .string f.returnType), ("name", .string f.name),
   ("parameter_list", .string f.parameters)]

def toJson (f : Signature) : Json.Value := .object f.members

end Signature

namespace Slot

/-- Reads members in order: the index, and the members that are kept, whose values stand inside
`depth` containers. -/
def splitMembers (depth : Nat) (index : Option Nat) : List (Option String × Draft) →
    Except ReadError (Option Nat × List (Option String × Draft))
  | [] => .ok (index, [])
  | (key, value) :: members => do
    if key = some "index" then
      if index.isSome then .error (.duplicateField "index")
      else
        let n ← Reader.natural UInt64.size value
        splitMembers depth (some n) members
    else if key.isSome ∧ value.isKeepable depth then
      let (index, kept) ← splitMembers depth index members
      return (index, (key, value) :: kept)
    else
      .error .unfit

/-- Reads a slot whose object is the innermost of `depth` containers. -/
def read (depth : Nat) : Reader Slot
  | .object members closed => do
    let (index, kept) ← splitMembers depth none members
    if !closed then .error .unfit
    else
      match index with
      | none => .error (.missingField "index")
      | some index =>
        let signature ← Signature.record.readMembers kept true
        return ⟨index, signature⟩
  | _ => .error .unfit

def toJson (slot : Slot) : Json.Value :=
  .object (("index", .number slot.index) :: slot.signature.members)

end Slot

end ExportTable
