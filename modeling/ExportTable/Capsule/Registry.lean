import ExportTable.Capsule.Table
import ExportTable.NameMap

/-!
# The registry

A registry binds keys to tables. A key is bound once and for all; there is no way to bind it again or
to take a table away.
-/

namespace ExportTable.Capsule

structure Registry where
  tables : NameMap Table := ∅
  deriving DecidableEq, Repr

namespace Registry

def find? (registry : Registry) (key : String) : Option Table := registry.tables.find? key

def isPublished (registry : Registry) (key : String) : Bool := (registry.find? key).isSome

def publish (registry : Registry) (key : String) (table : Table) : Except Error Registry :=
  if key = "" then .error .emptyKey
  else if registry.isPublished key then .error (.alreadyPublished key)
  else .ok ⟨registry.tables.insert key table⟩

theorem find?_publish {registry published : Registry} {key : String} {table : Table}
    (h : registry.publish key table = .ok published) (other : String) :
    published.find? other = if other = key then some table else registry.find? other := by
  unfold publish at h
  split at h
  · cases h
  split at h
  · cases h
  · cases h
    exact NameMap.find?_insert registry.tables key table other

def acquire (registry : Registry) (key : String) : Except Error Table :=
  if key = "" then .error .emptyKey
  else
    match registry.find? key with
    | some table => .ok table
    | none => .error (.notPublished key)

end Registry

/-- A consumer's hold on the table of a key, which remembers the table once it was found. -/
structure ImportHandle where
  key : String
  table? : Option Table := none
  deriving DecidableEq, Repr

namespace ImportHandle

def isImported (handle : ImportHandle) : Bool := handle.table?.isSome

/-- The address in a slot of the remembered table. -/
def function? (handle : ImportHandle) (index : Nat) : Option Address :=
  handle.table?.bind (·.get? index)

/-- Gives the remembered table, or else asks the registry. A failure is not remembered. -/
def acquire (handle : ImportHandle) (registry : Registry) : ImportHandle × Except Error Table :=
  match handle.table? with
  | some table => (handle, .ok table)
  | none =>
    match registry.acquire handle.key with
    | .ok table => ({ handle with table? := some table }, .ok table)
    | .error e => (handle, .error e)

end ImportHandle

end ExportTable.Capsule
