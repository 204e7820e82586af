import ExportTable.Host
import ExportTable.Text.Quoted
import ExportTable.Version.Describe

/-!
# Resolving the version

The version is what a describe command prints, if the command can be run in the source tree, is found
to have ended well before it is found to have run for too long, and prints a text that names a
version. Otherwise it is the first line of a version file. The command is run once.
-/

namespace ExportTable.Version

/-- Why a describe command gave no version. -/
inductive DescribeFault where
  | programMissing
  | notStarted (error : IoError)
  | timedOut (timeout : Duration)
  | notAwaited (error : IoError)
  | failed (status : ExitStatus)
  | outputPanicked
  | outputUnreadable (error : IoError)
  | unrecognized (output : String)
  deriving DecidableEq, Repr

def DescribeFault.message (program : String) : DescribeFault → String
  | programMissing => s!"{program} not found: cannot find binary path"
  | notStarted e => s!"failed to run {program}: {e.message}"
  | timedOut timeout => s!"{program} timed out after {timeout.text}"
  | notAwaited e => s!"failed to wait for {program}: {e.message}"
  | failed status => s!"{program} exited with {status.text}"
  | outputPanicked => s!"reading {program} output panicked"
  | outputUnreadable e => s!"failed to read {program} output: {e.message}"
  | unrecognized output => s!"unrecognized describe output: {Text.quoted output}"

inductive Source where
  | describe
  | file
  deriving DecidableEq, Repr

/-- A fault of the describe command, and what was wrong with the version file. -/
inductive ResolveError where
  | unavailable (program : String) (fault : DescribeFault) (path : Path) (error : IoError)
  | emptyFile (program : String) (fault : DescribeFault) (path : Path)
  deriving DecidableEq, Repr

def ResolveError.message : ResolveError → String
  | unavailable program fault path e =>
    s!"version unavailable: {fault.message program}; " ++
      s!"fallback file {path} could not be read: {e.message}"
  | emptyFile program fault path =>
    s!"version unavailable: {fault.message program}; fallback file {path} is empty"

def describeArguments : List String := ["describe", "--tags", "--long", "--match", "v[0-9]*"]

structure Resolver where
  sourceRoot : Path
  fallback : Path
  program : String := "git"
  arguments : List String := describeArguments
  timeout : Duration := .ofSeconds 10
  deriving DecidableEq, Repr

namespace Resolver

/-- The resolver for a source tree whose version file has its usual place. -/
def ofRoot (sourceRoot : Path) : Resolver where
  sourceRoot := sourceRoot
  fallback := Path.join sourceRoot "VERSION"

/-- The working directory of the describe command. -/
def directory (r : Resolver) (host : Host) : Except IoError Location := do
  if r.sourceRoot.toList.contains '\x00' ∨ r.arguments.any (·.toList.contains '\x00') then
    throw .nulInArgument
  let place ← host.files.locate r.sourceRoot
  match host.files.node? place with
  | some .directory => return place
  | _ => throw .notDirectory

/-- The run of the describe command, if it starts. -/
def start (r : Resolver) (host : Host) : Except DescribeFault (Location × WatchedRun) :=
  match host.program? r.program with
  | none => .error .programMissing
  | some command =>
    match r.directory host with
    | .error e => .error (.notStarted e)
    | .ok place =>
      match command r.arguments place with
      | .error e => .error (.notStarted e)
      | .ok run => .ok (place, run)

/-- Waits for the end of a run, from the `n`-th look on. The clock only counts against a run that
the look has found running. -/
def await (timeout : Duration) (run : WatchedRun) (n : Nat) : Except DescribeFault ExitStatus :=
  match (run.look n).finding with
  | .ended status => .ok status
  | .fault e => .error (.notAwaited e)
  | .running =>
    if timeout.nanoseconds ≤ (run.look n).elapsed.nanoseconds then .error (.timedOut timeout)
    else await timeout run (n + 1)
termination_by timeout.nanoseconds - (run.look n).elapsed.nanoseconds
decreasing_by
  have hpause := run.pause_le n
  have hinterval : 0 < pollInterval.nanoseconds := by decide
  omega

/-- The arguments and the working directory of the describe command, if its end is seen. -/
def call? (r : Resolver) (host : Host) : Option (List String × Location) :=
  match r.start host with
  | .error _ => none
  | .ok (place, run) =>
    match await r.timeout run 0 with
    | .error _ => none
    | .ok _ => some (r.arguments, place)

def readOutput : Output → Except DescribeFault String
  | .panic => .error .outputPanicked
  | .fault e => .error (.outputUnreadable e)
  | .bytes content =>
    match String.fromUTF8? content with
    | none => .error (.outputUnreadable .invalidText)
    | some text => .ok text

/-- What a run of the describe command says. -/
def readRun (timeout : Duration) (run : WatchedRun) : Except DescribeFault String := do
  let status ← await timeout run 0
  if status ≠ .exited 0 then
    throw (.failed status)
  let output ← readOutput run.output
  match describedVersion? output with
  | some version => return version
  | none => throw (.unrecognized (String.ofList (Text.trim output.toList)))

def describe (r : Resolver) (host : Host) : Except DescribeFault String := do
  let (_, run) ← r.start host
  readRun r.timeout run

/-- The first line of a version file, blank lines before it left aside. -/
def firstLine? (content : String) : Option String :=
  match Text.lines (Text.trim content.toList) with
  | [] => none
  | line :: _ => some (String.ofList (Text.trim line))

def readFallback (r : Resolver) (host : Host) (fault : DescribeFault) :
    Except ResolveError String :=
  match host.files.readText r.fallback with
  | .error e => .error (.unavailable r.program fault r.fallback e)
  | .ok content =>
    match firstLine? content with
    | some version => .ok version
    | none => .error (.emptyFile r.program fault r.fallback)

/-- The version and where it comes from. -/
def resolve (r : Resolver) (host : Host) : Except ResolveError (String × Source) :=
  match r.describe host with
  | .ok version => .ok (version, .describe)
  | .error fault => (r.readFallback host fault).map fun version ↦ (version, .file)

end Resolver

end ExportTable.Version
