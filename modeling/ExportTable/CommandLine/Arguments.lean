import ExportTable.Configuration

/-!
# Arguments

Arguments are read from left to right, in two levels: before and after the name of a command. Every
option may stand at either level, once at each, and the value after the command counts. The first
argument that cannot be read ends the reading, and so does a question for the version or for help.
-/

namespace ExportTable.CommandLine

inductive Command where
  | header
  | info
  | version
  | generate
  | list
  deriving DecidableEq, Repr

def Command.ofWord? : String → Option Command
  | "header" => some header
  | "info" => some info
  | "version" => some version
  | "generate" | "all" => some generate
  | "list" => some list
  | _ => none

/-- The options that take a value. -/
inductive ValueOption where
  | config
  | provider
  | typeDefinitions
  | opcodes
  | elementTypes
  | sourceRoot
  | versionFile
  | outDir
  | format
  deriving DecidableEq, Repr

namespace ValueOption

def ofWord? : String → Option ValueOption
  | "config" => some config
  | "provider" => some provider
  | "type-definitions" => some typeDefinitions
  | "opcodes" => some opcodes
  | "types" => some elementTypes
  | "src-root" => some sourceRoot
  | "version-file" => some versionFile
  | "out-dir" => some outDir
  | "format" => some format
  | _ => none

def ofLetter? : Char → Option ValueOption
  | 'c' => some config
  | 'o' => some outDir
  | _ => none

end ValueOption

structure Options where
  config? : Option Path := none
  provider? : Option Path := none
  typeDefinitions? : Option Path := none
  opcodes? : Option Path := none
  elementTypes? : Option Path := none
  sourceRoot? : Option Path := none
  versionFile? : Option Path := none
  outDir? : Option Path := none
  format? : Option InfoFormat := none
  verbose : Bool := false
  deriving DecidableEq, Repr

namespace Options

/-- A path that was not given before. -/
def newPath? (old : Option Path) (value : String) : Option (Option Path) :=
  if old.isSome ∨ value = "" then none else some (some value)

def newFormat? (old : Option InfoFormat) (value : String) : Option (Option InfoFormat) :=
  match old, InfoFormat.ofName value with
  | none, .ok format => some (some format)
  | _, _ => none

/-- Gives an option its value, if it has none and the value is fit. -/
def give? (options : Options) (option : ValueOption) (value : String) : Option Options :=
  match option with
  | .config => (newPath? options.config? value).map ({ options with config? := · })
  | .provider => (newPath? options.provider? value).map ({ options with provider? := · })
  | .typeDefinitions =>
    (newPath? options.typeDefinitions? value).map ({ options with typeDefinitions? := · })
  | .opcodes => (newPath? options.opcodes? value).map ({ options with opcodes? := · })
  | .elementTypes =>
    (newPath? options.elementTypes? value).map ({ options with elementTypes? := · })
  | .sourceRoot => (newPath? options.sourceRoot? value).map ({ options with sourceRoot? := · })
  | .versionFile => (newPath? options.versionFile? value).map ({ options with versionFile? := · })
  | .outDir => (newPath? options.outDir? value).map ({ options with outDir? := · })
  | .format => (newFormat? options.format? value).map ({ options with format? := · })

/-- The options of both levels together. -/
def orElse (inner outer : Options) : Options where
  config? := inner.config?.or outer.config?
  provider? := inner.provider?.or outer.provider?
  typeDefinitions? := inner.typeDefinitions?.or outer.typeDefinitions?
  opcodes? := inner.opcodes?.or outer.opcodes?
  elementTypes? := inner.elementTypes?.or outer.elementTypes?
  sourceRoot? := inner.sourceRoot?.or outer.sourceRoot?
  versionFile? := inner.versionFile?.or outer.versionFile?
  outDir? := inner.outDir?.or outer.outDir?
  format? := inner.format?.or outer.format?
  verbose := inner.verbose || outer.verbose

/-- The values given as options, over those of a configuration. -/
def apply (options : Options) (c : Configuration) : Configuration :=
  { c with
    paths :=
      { c.paths with
        sourceRoot := options.sourceRoot?.getD c.paths.sourceRoot
        providerSource := options.provider?.or c.paths.providerSource
        typeDefinitions := options.typeDefinitions?.or c.paths.typeDefinitions
        opcodes := options.opcodes?.or c.paths.opcodes
        elementTypes := options.elementTypes?.or c.paths.elementTypes
        versionFile := options.versionFile?.or c.paths.versionFile
        outDir := options.outDir?.getD c.paths.outDir }
    metadata := { c.metadata with format := options.format?.getD c.metadata.format } }

theorem apply_default (c : Configuration) : ({} : Options).apply c = c := rfl

end Options

/-- Why the reading of arguments ends early. -/
inductive Stop where
  | usage
  | version
  | help
  deriving DecidableEq, Repr

inductive Form where
  /-- Nothing after it is an option. -/
  | separator
  | long (word : String) (value? : Option String)
  | letters (letters : List Char)
  | plain
  deriving DecidableEq, Repr

/-- The form of an argument. A dash that stands alone is plain. -/
def Form.of (argument : String) : Form :=
  match argument.toList with
  | ['-', '-'] => separator
  | '-' :: '-' :: rest =>
    match rest.dropWhile (· ≠ '=') with
    | [] => long (String.ofList rest) none
    | _ :: value => long (String.ofList (rest.takeWhile (· ≠ '='))) (some (String.ofList value))
  | '-' :: c :: rest => letters (c :: rest)
  | _ => plain

/-- How far one level is read. -/
structure Level where
  /-- The version is only asked for before the name of a command. -/
  beforeCommand : Bool
  options : Options := {}
  /-- The option whose value comes next. -/
  pending? : Option ValueOption := none
  deriving DecidableEq, Repr

namespace Level

def give (level : Level) (option : ValueOption) (value : String) : Except Stop Level :=
  match level.options.give? option value with
  | some options => .ok { level with options, pending? := none }
  | none => .error .usage

def raiseVerbosity (level : Level) : Except Stop Level :=
  if level.options.verbose then .error .usage
  else .ok { level with options := { level.options with verbose := true } }

def readWord (level : Level) (word : String) (value? : Option String) : Except Stop Level :=
  match ValueOption.ofWord? word, value? with
  | some option, some value => level.give option value
  | some option, none => .ok { level with pending? := some option }
  | none, some _ => .error .usage
  | none, none =>
    if word = "verbose" then level.raiseVerbosity
    else if word = "help" then .error .help
    else if word = "version" ∧ level.beforeCommand then .error .version
    else .error .usage

/-- A value after a letter may be set off by an equals sign. -/
def dropEquals : List Char → List Char
  | '=' :: value => value
  | value => value

def readLetters (level : Level) : List Char → Except Stop Level
  | [] => .ok level
  | c :: rest =>
    match ValueOption.ofLetter? c with
    | some option =>
      if rest = [] then .ok { level with pending? := some option }
      else level.give option (String.ofList (dropEquals rest))
    | none =>
      if c = 'v' then
        match level.raiseVerbosity with
        | .ok level => level.readLetters rest
        | .error stop => .error stop
      else if c = 'h' then .error .help
      else if c = 'V' ∧ level.beforeCommand then .error .version
      else .error .usage

/-- Reads up to the first plain argument that is no value, and gives it with what follows it. -/
def read (level : Level) : List String → Except Stop (Options × Option (String × List String))
  | [] => if level.pending?.isSome then .error .usage else .ok (level.options, none)
  | argument :: rest =>
    match Form.of argument, level.pending? with
    | .plain, some option =>
      match level.give option argument with
      | .ok level => level.read rest
      | .error stop => .error stop
    | .plain, none => .ok (level.options, some (argument, rest))
    | _, some _ => .error .usage
    | .separator, none => if rest = [] then .ok (level.options, none) else .error .usage
    | .long word value?, none =>
      match level.readWord word value? with
      | .ok level => level.read rest
      | .error stop => .error stop
    | .letters letters, none =>
      match level.readLetters letters with
      | .ok level => level.read rest
      | .error stop => .error stop

end Level

structure Request where
  command : Command
  options : Options
  deriving DecidableEq, Repr

/-- Help is asked for a command at most. -/
def helpStop : List String → Stop
  | [] => .help
  | [topic] => if topic = "help" ∨ (Command.ofWord? topic).isSome then .help else .usage
  | _ => .usage

/-- What arguments ask for. -/
def Request.ofArguments (arguments : List String) : Except Stop Request := do
  match ← Level.read { beforeCommand := true } arguments with
  | (_, none) => throw .usage
  | (outer, some (word, rest)) =>
    if word = "help" then throw (helpStop rest)
    match Command.ofWord? word with
    | none => throw .usage
    | some command =>
      match ← Level.read { beforeCommand := false } rest with
      | (inner, none) => return ⟨command, inner.orElse outer⟩
      | (_, some _) => throw .usage

end ExportTable.CommandLine
