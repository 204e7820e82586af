import ExportTable.Info.Format
import ExportTable.Info
import ExportTable.Opcode.Json

/-!
# The info artifact in JSON
-/

namespace ExportTable

open Json

namespace Operation

def record : Record Operation :=
  Operation.mk <$> .field "name" .text <*> .field "id" (.natural UInt32.size) <*>
    .field "nop" (.natural UInt32.size) <*> .field "elementwise" .bool <*>
    .field "type_sig" rowsReader

def toJson (o : Operation) : Json.Value :=
  .object
    [("name", .string o.name), ("id", .number o.id), ("nop", .number o.operands),
     ("elementwise", .bool o.elementwise), ("type_sig", rowsToJson o.rows)]

end Operation

/-- Reads the bindings of a map in order. -/
def bindingsReader (read : Reader α) :
    List (Option String × Draft) → Except ReadError (List (String × α))
  | [] => .ok []
  | (none, _) :: _ => .error .unfit
  | (some name, value) :: members => do
    let a ← read value
    let bindings ← bindingsReader read members
    return (name, a) :: bindings

/-- Reads an object as a map; the last member of a name counts. -/
def NameMap.reader (read : Reader α) : Reader (NameMap α)
  | .object members closed => do
    let bindings ← bindingsReader read members
    if closed then .ok (.ofList bindings) else .error .unfit
  | _ => .error .unfit

def NameMap.toJson (encode : α → Json.Value) (m : NameMap α) : Json.Value :=
  .object (m.bindings.map fun (name, a) ↦ (name, encode a))

namespace Info

def record : Record Info :=
  Info.mk <$> .field "version" .text <*> .field "op" (NameMap.reader Operation.record.read) <*>
    .field "types" (.list .text)

def toJson (info : Info) : Json.Value :=
  .object
    [("version", .string info.version), ("op", info.operations.toJson Operation.toJson),
     ("types", .ofList .string info.types)]

/-- The artifact as a JSON file. -/
def jsonText (info : Info) : String := info.toJson.prettyText ++ "\n"

end Info

namespace InfoFormat

def ofWord? : String → Option InfoFormat
  | "json" => some json
  | "python" => some python
  | _ => none

/-- A format is given by its word, or by an object that maps its word to `null`. -/
def read : Reader InfoFormat
  | .string (some word) => Reader.ofOption (ofWord? word)
  | .object [(some word, .null)] true => Reader.ofOption (ofWord? word)
  | _ => .error .unfit

def toJson (format : InfoFormat) : Json.Value := .string format.word

end InfoFormat

end ExportTable
