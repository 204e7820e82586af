import ExportTable.Interface
import ExportTable.Text.Blank

/-!
# Headers

One header serves the provider and its consumers. Both get the type definitions and, for each
function, the macros of its index, return type and parameters, and the number of functions. The
provider further gets the prototypes and a function that fills the table; a consumer gets a macro for
each function that calls it through the table, and a routine that fetches the table once.
-/

namespace ExportTable.Interface

def banner : String := "/* This file is auto generated by bhapi-weld - do not edit manually */\n"

/-- The lookup function that consumers have a prototype of already. -/
def declaredLookup : String := "PyCapsule_Import"

/-- A line of documentation inside a comment. -/
def docLine (line : List Char) : String :=
  if line.all Text.isBlank then " *\n" else " * " ++ String.ofList line ++ "\n"

def docComment (doc : String) : String :=
  "/*\n" ++ String.join ((Text.lines doc.toList).map docLine) ++ " */\n"

def define (name value : String) : String := s!"#define {name} {value}\n"

/-- The macros that describe one function. -/
def slotMacros (exportPrefix : String) (slot : Slot) : String :=
  define (slot.indexMacro exportPrefix) (toString slot.index) ++
    define (slot.returnMacro exportPrefix) slot.signature.returnType ++
    define (slot.parametersMacro exportPrefix) slot.signature.parameters

def functionMacros (interface : Interface) : String :=
  String.join (interface.slots.map (slotMacros interface.names.exportPrefix))

def countDefinition (interface : Interface) : String :=
  "/* Total number of C API pointers */\n" ++
    define interface.names.countMacro (toString interface.size)

def slotPrototype (exportPrefix : String) (slot : Slot) : String :=
  s!"static {slot.returnMacro exportPrefix} {slot.symbol exportPrefix} " ++
    s!"{slot.parametersMacro exportPrefix};\n"

def slotAssignment (exportPrefix : String) (slot : Slot) : String :=
  s!"    c_api_struct[{slot.indexMacro exportPrefix}] = (void *){slot.symbol exportPrefix};\n"

def initializer (interface : Interface) : String :=
  s!"static void {interface.names.initFunction}(void *c_api_struct[]) \x7b\n" ++
    String.join (interface.slots.map (slotAssignment interface.names.exportPrefix)) ++
    "\x7d\n"

/-- Calls a function through the table. -/
def callMacro (names : Names) (slot : Slot) : String :=
  define (slot.symbol names.exportPrefix) <|
    s!"(*({slot.returnMacro names.exportPrefix} (*){slot.parametersMacro names.exportPrefix}) " ++
      s!"{names.tableName}[{slot.indexMacro names.exportPrefix}])"

def lookupPrototype (names : Names) : String :=
  if names.lookupFunction = declaredLookup then ""
  else s!"    void *{names.lookupFunction}(const char *name, int no_block);\n"

/-- The declaration of the table and the routine that fetches it. -/
def importSection (names : Names) : String :=
  s!"#ifdef {names.noImportFlag}\n" ++
  s!"    extern void **{names.tableName};\n" ++
  "#else\n" ++
  lookupPrototype names ++
  s!"    void **{names.tableName};\n" ++
  "    /* Return -1 on error, 0 on success.\n" ++
  "     * Repeated calls after a successful import are no-ops.\n" ++
  s!"     * {names.lookupFunction} sets an exception if there's an error.\n" ++
  "     */\n" ++
  "    static int\n" ++
  s!"    {names.importFunction}(void)\n" ++
  "    \x7b\n" ++
  s!"        if ({names.tableName} != NULL) \x7b\n" ++
  "            return 0;\n" ++
  "        \x7d\n" ++
  s!"        {names.tableName} = (void **){names.lookupFunction}(\"{names.capsuleKey}\", 0);\n" ++
  s!"        return ({names.tableName} != NULL) ? 0 : -1;\n" ++
  "    \x7d\n" ++
  "#endif\n"

def providerSection (interface : Interface) : String :=
  "/* This section is used when compiling the provider module */\n\n" ++
    String.join (interface.slots.map (slotPrototype interface.names.exportPrefix)) ++
    "\n" ++
    interface.initializer

def consumerSection (interface : Interface) : String :=
  "/* This section is used in modules that use the provider's API */\n\n" ++
    String.join (interface.slots.map (callMacro interface.names)) ++
    "\n" ++
    importSection interface.names

/-- The header around the given type definitions, whose trailing blanks are dropped. -/
def header (interface : Interface) (typeDefinitions : String) : String :=
  let names := interface.names
  s!"#ifndef {names.guard}\n#define {names.guard}\n\n" ++
  banner ++
  interface.doc.elim "" docComment ++
  "\n" ++
  String.ofList (Text.trimEnd typeDefinitions.toList) ++
  "\n\n" ++
  "#ifdef __cplusplus\nextern \"C\" \x7b\n#endif\n\n" ++
  "/* C API functions */\n" ++
  interface.functionMacros ++
  "\n" ++
  interface.countDefinition ++
  "\n" ++
  s!"#ifdef {names.moduleFlag}\n" ++
  interface.providerSection ++
  "\n#else\n" ++
  interface.consumerSection ++
  "#endif\n\n" ++
  "#ifdef __cplusplus\n\x7d\n#endif\n" ++
  s!"#endif /* !defined({names.guard}) */\n"

end ExportTable.Interface
