import ExportTable.Interface
import ExportTable.Signature.Json

/-!
# Interfaces in JSON
-/

namespace ExportTable.Interface

open Json

def Names.record : Record Names :=
  let name (field : NameField) : Record String :=
    .fieldOr field.label (({} : Names).get field) .text
  Names.mk <$> name .exportPrefix <*> name .guard <*> name .moduleFlag <*> name .noImportFlag <*>
    name .tableName <*> name .initFunction <*> name .importFunction <*> name .capsuleKey <*>
    name .lookupFunction

def Names.toJson (names : Names) : Json.Value :=
  .object (NameField.all.map fun field ↦ (field.label, .string (names.get field)))

/-- A slot of an interface stands inside the list of slots, and that inside the interface. -/
def slotDepth : Nat := 3

def record : Record Interface :=
  Interface.mk <$> .field "names" Names.record.read <*>
    .field "functions" (.list (Slot.read slotDepth)) <*>
    .fieldIfNamed "doc" none (.option .text)

def toJson (interface : Interface) : Json.Value :=
  .object
    [("names", interface.names.toJson), ("functions", .ofList Slot.toJson interface.slots),
     ("doc", .ofOption .string interface.doc)]

end ExportTable.Interface
