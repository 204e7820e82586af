import ExportTable.FileStore

/-!
# Writing to file stores

A new file or directory needs a parent that is a directory already. An operation gives the store as
it leaves it, also where it fails: creating a directory with those above it may fail half-way.
-/

namespace ExportTable.FileStore

/-- Where a path would create something: a name in a directory. -/
structure Target where
  parent : Location
  name : String
  /-- A slash follows the name. -/
  slashed : Bool
  deriving DecidableEq, Repr

def Target.location (t : Target) : Location := t.parent ++ [t.name]

/-- Whether the last segment of the path names nothing new. -/
def Target.isSpecial (t : Target) : Bool := t.name = "." || t.name = ".."

/-- The segments of a path before trailing slashes; a root has the segment of its own directory. -/
def creationSegments (path : Path) : List (List Char) :=
  match (path.segments.reverse.dropWhile (· = [])).reverse with
  | [] => [['.']]
  | segments => segments

def target (store : FileStore) (path : Path) : Except IoError Target := do
  checkPath path
  let segments := creationSegments path
  let parent ← segments.dropLast.foldlM store.enter (store.start path)
  if store.node? parent = some .directory then
    return ⟨parent, String.ofList (segments.getLastD []), path.toList.getLast? = some '/'⟩
  else
    throw .notDirectory

/-- Writes a file, over an older one. -/
def writeBytes (store : FileStore) (path : Path) (bytes : ByteArray) : Except IoError FileStore := do
  let target ← store.target path
  if target.isSpecial ∨ target.slashed then throw .isDirectory
  checkName target.name
  match store.node? target.location with
  | some .directory => throw .isDirectory
  | _ => return store.put target.location (.file bytes)

def writeText (store : FileStore) (path : Path) (text : String) : Except IoError FileStore :=
  store.writeBytes path text.toUTF8

def createDirectory (store : FileStore) (path : Path) : Except IoError FileStore := do
  let target ← store.target path
  if target.isSpecial then throw .alreadyExists
  checkName target.name
  match store.node? target.location with
  | some _ => throw .alreadyExists
  | none => return store.put target.location .directory

/-- Creates a directory; what is one already will do. -/
def ensureDirectory (store : FileStore) (path : Path) : FileStore × Except IoError Unit :=
  match store.createDirectory path with
  | .ok store => (store, .ok ())
  | .error e => (store, if store.isDirectory path then .ok () else .error e)

/-- Creates a directory and those above it that are missing, at most `fuel` of them. -/
def createAllWithin : Nat → FileStore → Path → FileStore × Except IoError Unit
  | 0, store, _ => (store, .error .noSuchFile)
  | fuel + 1, store, path =>
    if path = "" then (store, .ok ())
    else
      match store.createDirectory path with
      | .error .noSuchFile =>
        match path.parent? with
        | none => (store, .error .noSuchFile)
        | some parent =>
          match createAllWithin fuel store parent with
          | (store, .ok ()) => store.ensureDirectory path
          | failed => failed
      | _ => store.ensureDirectory path

def createAll (store : FileStore) (path : Path) : FileStore × Except IoError Unit :=
  createAllWithin (path.segments.length + 1) store path

/-- The nodes of a store that an older one does not have, the newest first. -/
def changes (store old : FileStore) : List (Location × Node) :=
  store.nodes.filter fun (location, node) ↦ old.node? location ≠ some node

end ExportTable.FileStore
