import ExportTable.Capsule.Registry

/-!
# The registry as seen from C

From C, a key is a pointer to bytes that end at the first zero byte, and a table is a pointer to
addresses that comes with their number. Each pointer may be null.
-/

namespace ExportTable.Capsule.Foreign

/-- What a pointer to a key points to; the bytes may go on after the end of the key. -/
abbrev KeyPointer := Option (List UInt8)

/-- What a pointer to a table points to. -/
abbrev TablePointer := Option (List Address)

def readKey : KeyPointer → Except Error String
  | none => .error .emptyKey
  | some bytes =>
    match String.fromUTF8? ⟨(bytes.takeWhile (· ≠ 0)).toArray⟩ with
    | some key => .ok key
    | none => .error .invalidKey

/-- The addresses of a table; without any, the pointer does not matter. -/
def readSlots (pointer : TablePointer) (size : Nat) : Except Error (List Address) :=
  if size = 0 then .ok []
  else
    match pointer with
    | none => .error (.nullAddress 0)
    | some slots => .ok (slots.take size)

def fill (size : Nat) (slots : List Address) : Except Error UnfinishedTable :=
  slots.zipIdx.foldlM (fun table (address, index) ↦ table.set index address) (.ofSize size)

def publish (registry : Registry) (key : KeyPointer) (slots : TablePointer) (size : Nat) :
    Except Error Registry := do
  let key ← readKey key
  let slots ← readSlots slots size
  let unfinished ← fill size slots
  let table ← unfinished.finish
  registry.publish key table

/-- The number that stands for success or failure. -/
def status : Except Error α → Int
  | .ok _ => 0
  | .error _ => -1

def acquire (registry : Registry) (key : KeyPointer) : Except Error Table := do
  registry.acquire (← readKey key)

end ExportTable.Capsule.Foreign
