import ExportTable.CommandLine

/-!
# The program

The program looks at the places that its arguments and its configuration name, runs on what it saw,
and then makes the changes of the run. It starts no other program, so a version always comes from
the version file.
-/

open ExportTable

namespace ExportTable.Shell

/-- The location that a path names, if every directory on the way is there. -/
def namedLocation (workingDir : Location) (path : Path) : Location :=
  path.segments.foldl
    (fun place segment ↦
      if Path.isIdle segment then place
      else if segment = ['.', '.'] then place.dropLast
      else place ++ [String.ofList segment])
    (if path.isAbsolute then [] else workingDir)

def locationText (location : Location) : String := "/" ++ "/".intercalate location

/-- The paths at which a recipe may read or write. -/
def placesOf (recipe : Recipe) (outDir? : Option Path) : List Path :=
  let outputs := (recipe.outDir.or outDir?).toList.flatMap fun directory ↦
    [directory.join recipe.headerName, directory.join recipe.format.fileName]
  recipe.sourceRoot :: recipe.resolver.fallback :: recipe.inputs ++ outputs

/-- Sees what is at a location and on the way to it. -/
def look (store : FileStore) (location : Location) : IO FileStore := do
  let mut seen := store
  for length in List.range' 1 location.length do
    let above := location.take length
    let place := (← IO.currentDir) / locationText above
    if ← place.isDir then
      seen := seen.put above .directory
    else if ← place.pathExists then
      seen := seen.put above (.file (← IO.FS.readBinFile place))
    else
      return seen
  return seen

def lookAll (store : FileStore) (paths : List Path) : IO FileStore :=
  paths.foldlM (fun store path ↦ look store (namedLocation store.workingDir path)) store

/-- The files that a run with these arguments may need. -/
def filesFor (arguments : List String) (outDir? : Option Path) : IO FileStore := do
  let workingDir := namedLocation [] (← IO.currentDir).toString
  let empty ← look { workingDir } workingDir
  match CommandLine.Request.ofArguments arguments with
  | .error _ => return empty
  | .ok request =>
    let store ← lookAll empty [request.options.config?.getD Configuration.fileName]
    match request.configuration store with
    | .error _ => return store
    | .ok c => lookAll store (placesOf (.ofConfiguration c) outDir?)

def makeChanges (changes : List (Location × Node)) : IO Unit := do
  for (location, node) in changes do
    match node with
    | .directory => IO.FS.createDirAll (locationText location)
    | .file bytes => IO.FS.writeBinFile (locationText location) bytes

end ExportTable.Shell

open ExportTable.Shell in
def main (arguments : List String) : IO UInt32 := do
  let outDir? ← IO.getEnv "OUT_DIR"
  let files ← filesFor arguments outDir?
  let outcome := CommandLine.run ⟨files, fun _ ↦ none, outDir?⟩ arguments
  makeChanges (outcome.files.changes files).reverse
  IO.print outcome.printed
  match outcome.ending with
  | .success => pure ()
  | .failure report => IO.eprint report.text
  | .misuse => IO.eprint ("error: the arguments cannot be read\n\n" ++ CommandLine.helpText)
  return outcome.ending.exitCode.toUInt32
