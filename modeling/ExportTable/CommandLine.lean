import ExportTable.CommandLine.Arguments
import ExportTable.CommandLine.Report
import ExportTable.Recipe.Build

/-!
# The command line

One run reads its arguments, takes the configuration with the options over it, and then prints one
artifact, the version or the list of functions, or builds. Only a build changes files.
-/

namespace ExportTable.CommandLine

def versionText : String := "bhapi 0.1.0\n"

def helpText : String :=
  "Generate the Bohrium cross-module C API\n\n" ++
    "Usage: bhapi [OPTIONS] <header|info|version|generate|list>\n\n" ++
    "Options:\n" ++
    "  -c, --config <CONFIG>\n" ++
    "  -v, --verbose\n" ++
    "      --provider <PROVIDER>\n" ++
    "      --type-definitions <TYPE_DEFINITIONS>\n" ++
    "      --opcodes <OPCODES>\n" ++
    "      --types <TYPES>\n" ++
    "      --src-root <SRC_ROOT>\n" ++
    "      --version-file <VERSION_FILE>\n" ++
    "  -o, --out-dir <OUT_DIR>\n" ++
    "      --format <FORMAT>\n" ++
    "  -h, --help\n" ++
    "  -V, --version\n"

inductive Ending where
  | success
  | failure (report : Report)
  | misuse
  deriving DecidableEq, Repr

namespace Ending

def exitCode : Ending → Nat
  | success => 0
  | failure _ => 1
  | misuse => 2

def report? : Ending → Option Report
  | failure report => some report
  | _ => none

end Ending

/-- What a run leaves behind. -/
structure Outcome where
  files : FileStore
  printed : String
  ending : Ending

/-- The configuration in the file that is given, or in the usual file if there is one. -/
def loadConfiguration (files : FileStore) (path? : Option Path) : Except Report Configuration :=
  let load (path : Path) :=
    (Configuration.load files path).mapError fun e ↦ ⟨s!"Failed to load config {path}", e.causes⟩
  match path? with
  | some path => load path
  | none => if files.isFile Configuration.fileName then load Configuration.fileName else .ok {}

def reported (context : String) (result : Except BuildError α) : Except Report α :=
  result.mapError fun e ↦ ⟨context, e.causes⟩

def sourceText : Version.Source → String
  | .describe => "git describe"
  | .file => "version file"

/-- The line of the list that shows a function. -/
def listLine (exportPrefix : String) (slot : Slot) : String :=
  String.ofList ((Text.digits slot.index).leftpad 4 ' ') ++ "  " ++
    slot.signature.returnType ++ " " ++ slot.symbol exportPrefix ++ slot.signature.parameters ++ "\n"

def listText (interface : Interface) : String :=
  String.join (interface.slots.map (listLine interface.names.exportPrefix)) ++
    s!"{interface.size} functions\n"

/-- The resolver of the version command, which takes no recipe. -/
def resolver (c : Configuration) : Version.Resolver :=
  let resolver :=
    { Version.Resolver.ofRoot c.paths.sourceRoot with
      timeout := .ofSeconds c.metadata.timeoutSeconds }
  match c.paths.versionFile with
  | some file => { resolver with fallback := file }
  | none => resolver

def versionLine (c : Configuration) (host : Host) : Except Report String :=
  match (resolver c).resolve host with
  | .ok (version, source) => .ok s!"{version} ({sourceText source})\n"
  | .error e => .error ⟨"Failed to resolve the version", e.causes⟩

def outputText (output : Recipe.Output) : String :=
  String.join ((output.headerPath :: output.infoPath.toList).map fun path ↦ s!"Wrote {path}\n")

/-- The run of a command that only prints. -/
def printing (host : Host) (text : Except Report String) : Outcome :=
  match text with
  | .ok text => ⟨host.files, text, .success⟩
  | .error report => ⟨host.files, "", .failure report⟩

def generate (recipe : Recipe) (host : Host) : Outcome :=
  let built := recipe.build host
  match reported "Failed to generate the C API" built.result with
  | .ok output => ⟨built.files, built.printed ++ outputText output, .success⟩
  | .error report => ⟨built.files, built.printed, .failure report⟩

def Command.run (command : Command) (c : Configuration) (host : Host) : Outcome :=
  let recipe : Recipe := .ofConfiguration c
  match command with
  | header => printing host (reported "Failed to generate the header" (recipe.header host.files))
  | info => printing host (reported "Failed to generate the info artifact" (recipe.infoText host))
  | version => printing host (versionLine c host)
  | generate => CommandLine.generate recipe host
  | list =>
    printing host
      ((reported "Failed to extract the API" (recipe.interface host.files)).map listText)

/-- The call of the describe command that a command takes. -/
def Command.call? (command : Command) (c : Configuration) (host : Host) :
    Option (List String × Location) :=
  let recipe : Recipe := .ofConfiguration c
  match command with
  | header | list => none
  | info => recipe.infoCall? host
  | version => (resolver c).call? host
  | generate => recipe.buildCall? host

/-- The configuration with the options over it. -/
def Request.configuration (request : Request) (files : FileStore) : Except Report Configuration :=
  (loadConfiguration files request.options.config?).map request.options.apply

def run (host : Host) (arguments : List String) : Outcome :=
  match Request.ofArguments arguments with
  | .error .usage => ⟨host.files, "", .misuse⟩
  | .error .version => ⟨host.files, versionText, .success⟩
  | .error .help => ⟨host.files, helpText, .success⟩
  | .ok request =>
    match request.configuration host.files with
    | .error report => ⟨host.files, "", .failure report⟩
    | .ok c => request.command.run c host

/-- The call of the describe command that a run takes. -/
def call? (host : Host) (arguments : List String) : Option (List String × Location) :=
  match Request.ofArguments arguments with
  | .error _ => none
  | .ok request =>
    match request.configuration host.files with
    | .error _ => none
    | .ok c => request.command.call? c host

end ExportTable.CommandLine
