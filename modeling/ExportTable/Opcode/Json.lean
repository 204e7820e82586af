import ExportTable.Json.Record
import ExportTable.Json.Value
import ExportTable.Opcode

/-!
# Tables of opcodes and element types in JSON
-/

namespace ExportTable

open Json

def rowsReader : Reader (List (List String)) := .list (.list .text)

def rowsToJson (rows : List (List String)) : Json.Value := .ofList (.ofList .string) rows

namespace Opcode

def record : Record Opcode :=
  Opcode.mk <$> .field "opcode" .text <*> .field "id" .lenientNatural <*>
    .field "nop" .lenientNatural <*> .field "elementwise" .lenientBool <*>
    .fieldOr "system_opcode" false .lenientBool <*> .fieldOr "types" [] rowsReader

def toJson (o : Opcode) : Json.Value :=
  .object
    [("opcode", .string o.name), ("id", .number o.id), ("nop", .number o.operands),
     ("elementwise", .bool o.elementwise), ("system_opcode", .bool o.isSystem),
     ("types", rowsToJson o.rows)]

end Opcode

namespace ElementType

def record : Record ElementType :=
  ElementType.mk <$> .field "enum" .text <*> .field "numpy" .text

def toJson (t : ElementType) : Json.Value :=
  .object [("enum", .string t.tag), ("numpy", .string t.native)]

end ElementType

inductive TableKind where
  | opcodes
  | elementTypes
  deriving DecidableEq, Repr

def TableKind.word : TableKind → String
  | opcodes => "opcode"
  | elementTypes => "type"

def Opcode.readTable (text : String) : Except ReadError (List Opcode) :=
  Reader.readText (.list Opcode.record.read) text

def ElementType.readTable (text : String) : Except ReadError (List ElementType) :=
  Reader.readText (.list ElementType.record.read) text

end ExportTable
