import ExportTable.Path

/-!
# File stores

A file store maps locations to files and directories. A path is walked segment by segment, from the
root or from the working directory; every segment needs a directory to stand in, so a slash after a
file leads nowhere.

`node?` is the view of a store: all that reading finds out is a matter of the nodes at locations.
-/

namespace ExportTable

inductive IoError where
  | noSuchFile
  | alreadyExists
  | notDirectory
  | isDirectory
  | nameTooLong
  | containsNul
  | nulInArgument
  | invalidText
  /-- Any other failure, in the words of the system. -/
  | other (message : String)
  deriving DecidableEq, Repr

def IoError.message : IoError → String
  | noSuchFile => "No such file or directory (os error 2)"
  | alreadyExists => "File exists (os error 17)"
  | notDirectory => "Not a directory (os error 20)"
  | isDirectory => "Is a directory (os error 21)"
  | nameTooLong => "File name too long (os error 36)"
  | containsNul => "file name contained an unexpected NUL byte"
  | nulInArgument => "nul byte found in provided data"
  | invalidText => "stream did not contain valid UTF-8"
  | other message => message

/-- The names on the way from the root. -/
abbrev Location := List String

inductive Node where
  | file (bytes : ByteArray)
  | directory

instance : DecidableEq Node
  | .file a, .file b => decidable_of_iff (a.data = b.data) (by rw [Node.file.injEq, ByteArray.ext_iff])
  | .file _, .directory => .isFalse nofun
  | .directory, .file _ => .isFalse nofun
  | .directory, .directory => .isTrue rfl

structure FileStore where
  nodes : List (Location × Node) := []
  workingDir : Location := []

namespace FileStore

/-- The root is always a directory. -/
def node? (store : FileStore) (location : Location) : Option Node :=
  if location = [] then some .directory else store.nodes.lookup location

def put (store : FileStore) (location : Location) (node : Node) : FileStore :=
  { store with nodes := (location, node) :: store.nodes.filter (·.1 ≠ location) }

theorem node?_put (store : FileStore) {location : Location} (node : Node) (h : location ≠ [])
    (other : Location) :
    (store.put location node).node? other =
      if other = location then some node else store.node? other := by
  unfold node? put
  by_cases hroot : other = []
  · simp [hroot, h.symm]
  by_cases heq : other = location
  · simp [heq, h]
  · have hlookup : (store.nodes.filter (·.1 ≠ location)).lookup other = store.nodes.lookup other := by
      induction store.nodes with
      | nil => rfl
      | cons entry rest ih =>
        obtain ⟨key, old⟩ := entry
        by_cases hkey : key = location
        · have : (other == location) = false := by simpa using heq
          simpa [hkey, List.lookup_cons, this] using ih
        · simp only [ne_eq, hkey, not_false_eq_true, decide_true, List.filter_cons_of_pos,
            List.lookup_cons]
          split
          · rfl
          · exact ih
    have hne : (other == location) = false := by simpa using heq
    simp only [hroot, heq, if_false, List.lookup_cons, hne]
    exact hlookup

/-- The most bytes that a name may have. -/
def maximalNameSize : Nat := 255

/-- The most bytes that a path may have. -/
def maximalPathSize : Nat := 4095

/-- The name of a segment that is neither idle nor leads up. -/
def checkName (name : String) : Except IoError Unit :=
  if name.utf8ByteSize ≤ maximalNameSize then .ok () else .error .nameTooLong

/-- The place below a directory that a segment leads to. -/
def enter (store : FileStore) (place : Location) (segment : List Char) : Except IoError Location :=
  match store.node? place with
  | some .directory =>
    if Path.isIdle segment then .ok place
    else if segment = ['.', '.'] then .ok place.dropLast
    else do
      let name := String.ofList segment
      checkName name
      match store.node? (place ++ [name]) with
      | some _ => return place ++ [name]
      | none => throw .noSuchFile
  | some (.file _) => .error .notDirectory
  | none => .error .noSuchFile

def start (store : FileStore) (path : Path) : Location :=
  if path.isAbsolute then [] else store.workingDir

/-- The conditions on the text of a path. -/
def checkPath (path : Path) : Except IoError Unit :=
  if path.toList.contains '\x00' then .error .containsNul
  else if path = "" then .error .noSuchFile
  else if maximalPathSize < path.utf8ByteSize then .error .nameTooLong
  else .ok ()

/-- The location that a path leads to. -/
def locate (store : FileStore) (path : Path) : Except IoError Location := do
  checkPath path
  path.segments.foldlM store.enter (store.start path)

/-- What a path leads to. -/
def find (store : FileStore) (path : Path) : Except IoError Node := do
  match store.node? (← store.locate path) with
  | some node => return node
  | none => throw .noSuchFile

def isFile (store : FileStore) (path : Path) : Bool :=
  match store.find path with
  | .ok (.file _) => true
  | _ => false

def isDirectory (store : FileStore) (path : Path) : Bool :=
  match store.find path with
  | .ok .directory => true
  | _ => false

def readBytes (store : FileStore) (path : Path) : Except IoError ByteArray := do
  match ← store.find path with
  | .file bytes => return bytes
  | .directory => throw .isDirectory

def readText (store : FileStore) (path : Path) : Except IoError String := do
  match String.fromUTF8? (← store.readBytes path) with
  | some text => return text
  | none => throw .invalidText

end FileStore

end ExportTable
