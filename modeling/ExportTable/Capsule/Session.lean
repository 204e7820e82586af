import ExportTable.Capsule.Foreign

/-!
# Sessions

A session is a registry in use: providers fill tables and publish them, consumers hold import
handles, and both may call from C. Tables on the way and handles have names. A call that takes a
table away from its name does so even if it fails.
-/

namespace ExportTable.Capsule

structure Session where
  registry : Registry := {}
  unfinished : NameMap UnfinishedTable := ∅
  tables : NameMap Table := ∅
  handles : NameMap ImportHandle := ∅
  deriving DecidableEq, Repr

inductive Step where
  | begin (name : String) (size : Nat)
  | set (name : String) (index : Nat) (address : Address)
  | writeAll (name : String) (writes : List (Nat × Address))
  /-- Turns an unfinished table into a table of another name. -/
  | finish (name table : String)
  | inspectTable (table : String)
  | publish (key table : String)
  | acquire (key : String)
  | askPublished (key : String)
  | newHandle (name key : String)
  | useHandle (name : String)
  | inspectHandle (name : String)
  | foreignPublish (key : Foreign.KeyPointer) (slots : Foreign.TablePointer) (size : Nat)
  | foreignAcquire (key : Foreign.KeyPointer)
  deriving DecidableEq, Repr

/-- What a name should have stood for. -/
inductive Missing where
  | unfinished
  | table
  | handle
  deriving DecidableEq, Repr

inductive Answer where
  | done
  | table (table : Table)
  | handle (handle : ImportHandle)
  | published (published : Bool)
  | status (status : Int)
  | pointer (table? : Option Table)
  | failed (error : Error)
  | missing (missing : Missing)
  deriving DecidableEq, Repr

namespace Answer

def ofResult : Except Error Table → Answer
  | .ok found => table found
  | .error e => failed e

end Answer

namespace Session

def set (session : Session) (name : String) (index : Nat) (address : Address) : Session × Answer :=
  match session.unfinished.find? name with
  | none => (session, .missing .unfinished)
  | some table =>
    match table.set index address with
    | .ok table => ({ session with unfinished := session.unfinished.insert name table }, .done)
    | .error e => ({ session with unfinished := session.unfinished.erase name }, .failed e)

def writeAll (session : Session) (name : String) (writes : List (Nat × Address)) :
    Session × Answer :=
  match session.unfinished.find? name with
  | none => (session, .missing .unfinished)
  | some table =>
    let table := table.writeAll writes
    ({ session with unfinished := session.unfinished.insert name table }, .done)

def finish (session : Session) (name tableName : String) : Session × Answer :=
  match session.unfinished.find? name with
  | none => (session, .missing .unfinished)
  | some unfinished =>
    let session := { session with unfinished := session.unfinished.erase name }
    match unfinished.finish with
    | .ok table => ({ session with tables := session.tables.insert tableName table }, .table table)
    | .error e => (session, .failed e)

def publish (session : Session) (key tableName : String) : Session × Answer :=
  match session.tables.find? tableName with
  | none => (session, .missing .table)
  | some table =>
    let session := { session with tables := session.tables.erase tableName }
    match session.registry.publish key table with
    | .ok registry => ({ session with registry }, .table table)
    | .error e => (session, .failed e)

def useHandle (session : Session) (name : String) : Session × Answer :=
  match session.handles.find? name with
  | none => (session, .missing .handle)
  | some handle =>
    let (handle, result) := handle.acquire session.registry
    ({ session with handles := session.handles.insert name handle }, .ofResult result)

def foreignPublish (session : Session) (key : Foreign.KeyPointer) (slots : Foreign.TablePointer)
    (size : Nat) : Session × Answer :=
  let result := Foreign.publish session.registry key slots size
  let answer := Answer.status (Foreign.status result)
  match result with
  | .ok registry => ({ session with registry }, answer)
  | .error _ => (session, answer)

def step (session : Session) : Step → Session × Answer
  | .begin name size =>
    ({ session with unfinished := session.unfinished.insert name (.ofSize size) }, .done)
  | .set name index address => session.set name index address
  | .writeAll name writes => session.writeAll name writes
  | .finish name table => session.finish name table
  | .inspectTable table =>
    match session.tables.find? table with
    | some table => (session, .table table)
    | none => (session, .missing .table)
  | .publish key table => session.publish key table
  | .acquire key => (session, .ofResult (session.registry.acquire key))
  | .askPublished key => (session, .published (session.registry.isPublished key))
  | .newHandle name key =>
    ({ session with handles := session.handles.insert name { key } }, .done)
  | .useHandle name => session.useHandle name
  | .inspectHandle name =>
    match session.handles.find? name with
    | some handle => (session, .handle handle)
    | none => (session, .missing .handle)
  | .foreignPublish key slots size => session.foreignPublish key slots size
  | .foreignAcquire key => (session, .pointer (Foreign.acquire session.registry key).toOption)

/-- The steps one after the other, with the answer to each. -/
def run (session : Session) : List Step → Session × List Answer
  | [] => (session, [])
  | step :: rest =>
    let (session, answer) := session.step step
    let (session, answers) := session.run rest
    (session, answer :: answers)

end Session

end ExportTable.Capsule
