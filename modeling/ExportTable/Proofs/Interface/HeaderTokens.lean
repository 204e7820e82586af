import ExportTable.Proofs.CSource.Layout
import ExportTable.Proofs.Interface.MacroDirectives

/-!
# The tokens of a header

A header is read as its type definitions and a fixed frame of declarations around the symbols of the
functions. The macros are directives, and nothing of them, of the comments or of the capsule key is
read as a token of its own.
-/

namespace ExportTable.Interface

open CSource Extraction

/-! ## What is declared -/

/-- `static RETURN SYMBOL PARAMETERS;` -/
def prototypeWords (exportPrefix : String) (slot : Slot) : List Word :=
  [.name "static", .name (slot.returnMacro exportPrefix), .name (slot.symbol exportPrefix),
   .name (slot.parametersMacro exportPrefix), .mark ';']

/-- `c_api_struct[INDEX] = (void *)SYMBOL;` -/
def assignmentWords (exportPrefix : String) (slot : Slot) : List Word :=
  [.name "c_api_struct", .mark '[', .name (slot.indexMacro exportPrefix), .mark ']', .mark '=',
   .mark '(', .name "void", .mark '*', .mark ')', .name (slot.symbol exportPrefix), .mark ';']

/-- `static void INIT(void *c_api_struct[]) {` -/
def initializerHead (names : Names) : List Word :=
  [.name "static", .name "void", .name names.initFunction, .mark '(', .name "void", .mark '*',
   .name "c_api_struct", .mark '[', .mark ']', .mark ')', .mark '{']

def initializerWords (interface : Interface) : List Word :=
  initializerHead interface.names ++
    interface.slots.flatMap (assignmentWords interface.names.exportPrefix) ++ [.mark '}']

/-- `extern void **TABLE;` -/
def externWords (names : Names) : List Word :=
  [.name "extern", .name "void", .mark '*', .mark '*', .name names.tableName, .mark ';']

/-- `void *LOOKUP(const char *name, int no_block);` -/
def lookupDeclaration (names : Names) : List Word :=
  [.name "void", .mark '*', .name names.lookupFunction, .mark '(', .name "const", .name "char",
   .mark '*', .name "name", .mark ',', .name "int", .name "no_block", .mark ')', .mark ';']

def lookupWords (names : Names) : List Word :=
  if names.lookupFunction = "PyCapsule_Import" then [] else lookupDeclaration names

/-- `void **TABLE;` -/
def tableWords (names : Names) : List Word :=
  [.name "void", .mark '*', .mark '*', .name names.tableName, .mark ';']

/-- `static int IMPORT(void) {` -/
def importHead (names : Names) : List Word :=
  [.name "static", .name "int", .name names.importFunction, .mark '(', .name "void", .mark ')',
   .mark '{']

/-- `if (TABLE != NULL) { return 0; }` -/
def importedWords (names : Names) : List Word :=
  [.name "if", .mark '(', .name names.tableName, .mark '!', .mark '=', .name "NULL", .mark ')',
   .mark '{', .name "return", .numeral "0", .mark ';', .mark '}']

/-- `TABLE = (void **)LOOKUP("KEY", 0);` -/
def fetchWords (names : Names) : List Word :=
  [.name names.tableName, .mark '=', .mark '(', .name "void", .mark '*', .mark '*', .mark ')',
   .name names.lookupFunction, .mark '(', .quoted names.capsuleKey, .mark ',', .numeral "0",
   .mark ')', .mark ';']

/-- `return (TABLE != NULL) ? 0 : -1;` -/
def resultWords (names : Names) : List Word :=
  [.name "return", .mark '(', .name names.tableName, .mark '!', .mark '=', .name "NULL", .mark ')',
   .mark '?', .numeral "0", .mark ':', .mark '-', .numeral "1", .mark ';']

/-- The routine that fetches the table. -/
def importWords (names : Names) : List Word :=
  importHead names ++ importedWords names ++ fetchWords names ++ resultWords names ++ [.mark '}']

/-- All that the header declares after the type definitions. -/
def headerWords (interface : Interface) : List Word :=
  [.name "extern", .quoted "C", .mark '{'] ++
  interface.slots.flatMap (prototypeWords interface.names.exportPrefix) ++
  interface.initializerWords ++
  externWords interface.names ++
  lookupWords interface.names ++
  tableWords interface.names ++
  importWords interface.names ++
  [.mark '}']

/-! ## Declarations of one function -/

section Slot

variable {exportPrefix : String} {slot : Slot}

theorem readsAs_slotPrototype (h : isIdentifier (slot.symbol exportPrefix)) :
    ReadsAs (slotPrototype exportPrefix slot) (prototypeWords exportPrefix slot) := by
  apply readsAs_layOut ["", " ", " ", " ", ""]
  · delta slotPrototype
    simp [toString, layOut, prototypeWords, Word.name, Word.mark]
  · rfl
  · rfl
  · simp +decide [prototypeWords, isWord_name, isWord_mark, h, isIdentifier_returnMacro h,
      isIdentifier_parametersMacro h]

theorem readsAs_slotAssignment (h : isIdentifier (slot.symbol exportPrefix)) :
    ReadsAs (slotAssignment exportPrefix slot) (assignmentWords exportPrefix slot) := by
  apply readsAs_layOut ["    ", "", "", "", " ", " ", "", " ", "", "", ""]
  · delta slotAssignment
    simp [toString, layOut, assignmentWords, Word.name, Word.mark]
  · rfl
  · rfl
  · simp +decide [assignmentWords, isWord_name, isWord_mark, h, isIdentifier_indexMacro h]

end Slot

/-! ## Texts with names of the interface -/

theorem readsAs_nameDirective (front back : String) {text name : String}
    (htext : text = front ++ name ++ back ++ "\n") (hmark : front.toList.head? = some '#')
    (hline : '\n' ∉ (front ++ back).toList) (hback : '\\' ∉ (front ++ back).toList)
    (h : isIdentifier name) : ReadsAs text [] := by
  have hname := not_mem_feed_of_isIdentifier h
  rw [String.toList_append, List.mem_append, not_or] at hline hback
  rw [htext]
  apply readsAs_directive
  apply isDirective_of_not_mem
  · simp [hmark]
  · simp [hline, hname]
  · simp [hback, hname]

theorem readsAs_blankLine : ReadsAs "\n" [] := readsAs_blanks (by decide)

theorem isWord_capsuleKey {names : Names} (hfits : fitsStringLiteral names.capsuleKey) :
    IsWord (.quoted names.capsuleKey) := by
  have hall : ∀ c ∈ names.capsuleKey.toList, c ≠ '"' ∧ c ≠ '\\' ∧ c ≠ '\n' := by
    simpa [fitsStringLiteral] using hfits
  apply isWord_quoted
  · exact fun hmem ↦ (hall _ hmem).1 rfl
  · exact fun hmem ↦ (hall _ hmem).2.1 rfl
  · exact fun hmem ↦ (hall _ hmem).2.2 rfl

section Names

variable {names : Names} (hnames : ∀ field ≠ NameField.capsuleKey, isIdentifier (names.get field))

include hnames

theorem readsAs_guard : ReadsAs s!"#ifndef {names.guard}\n#define {names.guard}\n\n" [] := by
  have hguard : isIdentifier names.guard := hnames .guard (by decide)
  have htext : s!"#ifndef {names.guard}\n#define {names.guard}\n\n" =
      "#ifndef " ++ names.guard ++ "\n" ++ ("#define " ++ names.guard ++ "\n") ++ "\n" := by
    rw [← String.toList_inj]
    simp [toString]
  have hcheck : ReadsAs ("#ifndef " ++ names.guard ++ "\n") [] :=
    readsAs_nameDirective "#ifndef " "" (by simp) rfl (by decide) (by decide) hguard
  have hdefine : ReadsAs ("#define " ++ names.guard ++ "\n") [] :=
    readsAs_nameDirective "#define " "" (by simp) rfl (by decide) (by decide) hguard
  rw [htext]
  exact (hcheck.append_gap hdefine).append_gap readsAs_blankLine

theorem readsAs_guardEnd : ReadsAs s!"#endif /* !defined({names.guard}) */\n" [] := by
  apply readsAs_nameDirective "#endif /* !defined(" ") */" _ rfl (by decide) (by decide)
    (hnames .guard (by decide))
  rw [← String.toList_inj]
  simp [toString, Names.get]

theorem readsAs_ifdef (field : NameField) (hfield : field ≠ .capsuleKey) :
    ReadsAs s!"#ifdef {names.get field}\n" [] := by
  apply readsAs_nameDirective "#ifdef " "" _ rfl (by decide) (by decide) (hnames field hfield)
  simp [toString]

theorem readsAs_initializerHead :
    ReadsAs s!"static void {names.initFunction}(void *c_api_struct[]) \x7b\n"
      (initializerHead names) := by
  have hinit : isIdentifier names.initFunction := hnames .initFunction (by decide)
  apply readsAs_layOut ["", " ", " ", "", "", " ", "", "", "", "", " "]
  · simp [toString, layOut, initializerHead, Word.name, Word.mark]
  · rfl
  · rfl
  · simp +decide [initializerHead, isWord_name, isWord_mark, hinit]

theorem readsAs_externTable :
    ReadsAs s!"    extern void **{names.tableName};\n" (externWords names) := by
  have htable : isIdentifier names.tableName := hnames .tableName (by decide)
  apply readsAs_layOut ["    ", " ", " ", "", "", ""]
  · simp [toString, layOut, externWords, Word.name, Word.mark]
  · rfl
  · rfl
  · simp +decide [externWords, isWord_name, isWord_mark, htable]

theorem readsAs_table : ReadsAs s!"    void **{names.tableName};\n" (tableWords names) := by
  have htable : isIdentifier names.tableName := hnames .tableName (by decide)
  apply readsAs_layOut ["    ", " ", "", "", ""]
  · simp [toString, layOut, tableWords, Word.name, Word.mark]
  · rfl
  · rfl
  · simp +decide [tableWords, isWord_name, isWord_mark, htable]

theorem readsAs_lookupPrototype : ReadsAs (lookupPrototype names) (lookupWords names) := by
  have hlookup : isIdentifier names.lookupFunction := hnames .lookupFunction (by decide)
  have hdeclared : ReadsAs s!"    void *{names.lookupFunction}(const char *name, int no_block);\n"
      (lookupDeclaration names) := by
    apply readsAs_layOut ["    ", " ", "", "", "", " ", " ", "", "", " ", " ", "", ""]
    · simp [toString, layOut, lookupDeclaration, Word.name, Word.mark]
    · rfl
    · rfl
    · simp +decide [lookupDeclaration, isWord_name, isWord_mark, hlookup]
  unfold lookupPrototype lookupWords declaredLookup
  split
  · exact readsAs_empty
  · exact hdeclared

/-! ## The routine that fetches the table -/

theorem readsAs_importHead :
    ReadsAs ("    static int\n" ++ s!"    {names.importFunction}(void)\n" ++ "    \x7b\n")
      (importHead names) := by
  have himport : isIdentifier names.importFunction := hnames .importFunction (by decide)
  apply readsAs_layOut ["    ", " ", "\n    ", "", "", "", "\n    "]
  · simp [toString, layOut, importHead, Word.name, Word.mark]
  · rfl
  · rfl
  · simp +decide [importHead, isWord_name, isWord_mark, himport]

theorem readsAs_imported :
    ReadsAs (s!"        if ({names.tableName} != NULL) \x7b\n" ++ "            return 0;\n" ++
      "        \x7d\n") (importedWords names) := by
  have htable : isIdentifier names.tableName := hnames .tableName (by decide)
  apply readsAs_layOut
    ["        ", " ", "", " ", "", " ", "", " ", "\n            ", " ", "", "\n        "]
  · simp [toString, layOut, importedWords, Word.name, Word.mark, Word.numeral]
  · rfl
  · rfl
  · simp +decide [importedWords, isWord_name, isWord_mark, isWord_numeral, htable]

theorem readsAs_fetch (hfits : fitsStringLiteral names.capsuleKey) :
    ReadsAs
      s!"        {names.tableName} = (void **){names.lookupFunction}(\"{names.capsuleKey}\", 0);\n"
      (fetchWords names) := by
  have htable : isIdentifier names.tableName := hnames .tableName (by decide)
  have hlookup : isIdentifier names.lookupFunction := hnames .lookupFunction (by decide)
  have hkey := isWord_capsuleKey hfits
  apply readsAs_layOut ["        ", " ", " ", "", " ", "", "", "", "", "", "", " ", "", ""]
  · simp [toString, layOut, fetchWords, Word.name, Word.mark, Word.numeral, Word.quoted]
  · rfl
  · rfl
  · simp +decide [fetchWords, isWord_name, isWord_mark, isWord_numeral, htable, hlookup, hkey]

theorem readsAs_result :
    ReadsAs s!"        return ({names.tableName} != NULL) ? 0 : -1;\n" (resultWords names) := by
  have htable : isIdentifier names.tableName := hnames .tableName (by decide)
  apply readsAs_layOut ["        ", " ", "", " ", "", " ", "", " ", " ", " ", " ", "", ""]
  · simp [toString, layOut, resultWords, Word.name, Word.mark, Word.numeral]
  · rfl
  · rfl
  · simp +decide [resultWords, isWord_name, isWord_mark, isWord_numeral, htable]

theorem readsAs_importComment :
    ReadsAs ("    /* Return -1 on error, 0 on success.\n" ++
      "     * Repeated calls after a successful import are no-ops.\n" ++
      s!"     * {names.lookupFunction} sets an exception if there's an error.\n" ++
      "     */\n") [] := by
  have hlookup : '/' ∉ names.lookupFunction.toList :=
    not_mem_of_isIdentifier (hnames .lookupFunction (by decide)) (by decide)
  generalize hbody : " Return -1 on error, 0 on success.\n" ++
    "     * Repeated calls after a successful import are no-ops.\n" ++
    s!"     * {names.lookupFunction} sets an exception if there's an error.\n" ++ "     " = body
  have hslash : '/' ∉ body.toList := by
    simp [← hbody, toString, hlookup]
  have htext : "    /* Return -1 on error, 0 on success.\n" ++
      "     * Repeated calls after a successful import are no-ops.\n" ++
      s!"     * {names.lookupFunction} sets an exception if there's an error.\n" ++ "     */\n" =
      "    " ++ ("/*" ++ body ++ "*/\n") := by
    rw [← String.toList_inj, ← hbody]
    simp [toString]
  have hindent : ReadsAs "    " [] := readsAs_blanks (by decide)
  rw [htext]
  exact hindent.append (readsAs_comment hslash)

theorem readsAs_importSection (hfits : fitsStringLiteral names.capsuleKey) :
    ReadsAs (importSection names)
      (externWords names ++ lookupWords names ++ tableWords names ++ importWords names) := by
  have hifdef : ReadsAs s!"#ifdef {names.noImportFlag}\n" [] :=
    readsAs_ifdef hnames .noImportFlag (by decide)
  have helse : ReadsAs "#else\n" [] := readsAs_fixed "#else" (by decide +kernel) (by decide)
  have hclose : ReadsAs "    \x7d\n" [.mark '}'] :=
    readsAs_fixed "    \x7d" (by decide +kernel) (by decide)
  have hendif : ReadsAs "#endif\n" [] := readsAs_fixed "#endif" (by decide +kernel) (by decide)
  have hdeclared := (((hifdef.append (readsAs_externTable hnames)).append_gap helse).append
    (readsAs_lookupPrototype hnames)).append (readsAs_table hnames)
  have hroutine : ReadsAs _ (importWords names) :=
    ((((readsAs_importHead hnames).append (readsAs_imported hnames)).append
      (readsAs_fetch hnames hfits)).append (readsAs_result hnames)).append hclose
  have hwhole := ((hdeclared.append_gap (readsAs_importComment hnames)).append hroutine).append_gap
    hendif
  delta importSection
  simpa only [String.append_assoc, List.nil_append] using hwhole

end Names

/-! ## Macros -/

theorem readsAs_definitionText {definitions : List (String × String)}
    (h : ∀ definition ∈ definitions, IsDirective (definitionLine definition).toList) :
    ReadsAs (definitionText definitions) [] := by
  apply readsAs_directives (toList_definitionText definitions)
  intro line hline
  obtain ⟨definition, hmem, rfl⟩ := List.mem_map.mp hline
  exact h definition hmem

theorem readsAs_functionMacros {interface : Interface}
    (h : ∀ slot ∈ interface.slots, FitsDirectives interface.names.exportPrefix slot.signature) :
    ReadsAs interface.functionMacros [] := by
  apply readsAs_directives (toList_functionMacros interface)
  intro line hline
  obtain ⟨slot, hslot, hline⟩ := List.mem_flatMap.mp hline
  exact isDirective_slotDirectives (h slot hslot) line hline

section Interface

variable {interface : Interface}
  (hnames : ∀ field ≠ NameField.capsuleKey, isIdentifier (interface.names.get field))

include hnames

theorem readsAs_countDefinition : ReadsAs interface.countDefinition [] := by
  have hcount := isIdentifier_countMacro (hnames .exportPrefix (by decide))
  have hcomment : ReadsAs "/* Total number of C API pointers */\n" [] :=
    readsAs_fixed "/* Total number of C API pointers */" (by decide +kernel) (by decide)
  have hdefine : ReadsAs (define interface.names.countMacro (toString interface.size)) [] := by
    rw [define_eq]
    exact readsAs_directive (isDirective_definitionLine_toString hcount interface.size)
  exact hcomment.append hdefine

variable
  (hsymbols : ∀ slot ∈ interface.slots, isIdentifier (slot.symbol interface.names.exportPrefix))

include hsymbols

theorem isDirective_callDefinition :
    ∀ definition ∈ interface.callDefinitions, IsDirective (definitionLine definition).toList := by
  intro definition hmem
  obtain ⟨slot, hslot, rfl⟩ := List.mem_map.mp hmem
  have hsymbol := hsymbols slot hslot
  have hreturn := not_mem_feed_of_isIdentifier (isIdentifier_returnMacro hsymbol)
  have hparameters := not_mem_feed_of_isIdentifier (isIdentifier_parametersMacro hsymbol)
  have hindex := not_mem_feed_of_isIdentifier (isIdentifier_indexMacro hsymbol)
  have htable : '\n' ∉ interface.names.tableName.toList ∧ '\\' ∉ interface.names.tableName.toList :=
    not_mem_feed_of_isIdentifier (hnames .tableName (by decide))
  apply isDirective_definitionLine hsymbol
  · apply Continued.of_not_mem
    simp [toString, hreturn, hparameters, hindex, htable]
  · intro hend
    simpa [toString, hreturn, hparameters, hindex, htable] using hend.mem

/-! ## Sections -/

theorem readsAs_initializer : ReadsAs interface.initializer interface.initializerWords := by
  have hassignments : ReadsAs
      (String.join (interface.slots.map (slotAssignment interface.names.exportPrefix)))
      (interface.slots.flatMap (assignmentWords interface.names.exportPrefix)) :=
    readsAs_join fun slot hslot ↦ readsAs_slotAssignment (hsymbols slot hslot)
  have hclose : ReadsAs "\x7d\n" [.mark '}'] :=
    readsAs_fixed "\x7d" (by decide +kernel) (by decide)
  exact ((readsAs_initializerHead hnames).append hassignments).append hclose

theorem readsAs_providerSection : ReadsAs interface.providerSection
    (interface.slots.flatMap (prototypeWords interface.names.exportPrefix) ++
      interface.initializerWords) := by
  have hcomment :
      ReadsAs "/* This section is used when compiling the provider module */\n\n" [] :=
    readsAs_fixed "/* This section is used when compiling the provider module */\n"
      (by decide +kernel) (by decide)
  have hprototypes : ReadsAs
      (String.join (interface.slots.map (slotPrototype interface.names.exportPrefix)))
      (interface.slots.flatMap (prototypeWords interface.names.exportPrefix)) :=
    readsAs_join fun slot hslot ↦ readsAs_slotPrototype (hsymbols slot hslot)
  exact ((hcomment.append hprototypes).append_gap readsAs_blankLine).append
    (readsAs_initializer hnames hsymbols)

theorem readsAs_consumerSection (hfits : fitsStringLiteral interface.names.capsuleKey) :
    ReadsAs interface.consumerSection
      (externWords interface.names ++ lookupWords interface.names ++ tableWords interface.names ++
        importWords interface.names) := by
  have hcomment :
      ReadsAs "/* This section is used in modules that use the provider's API */\n\n" [] :=
    readsAs_fixed "/* This section is used in modules that use the provider's API */\n"
      (by decide +kernel) (by decide)
  have hmacros : ReadsAs (String.join (interface.slots.map (callMacro interface.names))) [] := by
    rw [join_callMacro_eq]
    exact readsAs_definitionText (isDirective_callDefinition hnames hsymbols)
  exact ((hcomment.append_gap hmacros).append_gap readsAs_blankLine).append
    (readsAs_importSection hnames hfits)

end Interface

/-! ## The header -/

/-- The header is read as the type definitions and what it declares after them. -/
theorem readsAs_header {interface : Interface} (hvalid : interface.Valid)
    (hdoc : interface.doc = none)
    (hsignatures : ∀ slot ∈ interface.slots,
      FitsDirectives interface.names.exportPrefix slot.signature)
    {typeDefinitions : String} {types : List Token}
    (htypes : tokenize (String.ofList (Text.trimEnd typeDefinitions.toList)) = .ok types) :
    ReadsAs (interface.header typeDefinitions)
      (types.map Token.word ++ interface.headerWords) := by
  have hnames := hvalid.isIdentifier
  have hsymbols : ∀ slot ∈ interface.slots,
      isIdentifier (slot.symbol interface.names.exportPrefix) := by
    intro slot hslot
    exact (hsignatures slot hslot).isIdentifier
  have hbanner : ReadsAs banner [] :=
    readsAs_fixed "/* This file is auto generated by bhapi-weld - do not edit manually */"
      (by decide +kernel) (by decide)
  have hdocComment : ReadsAs (interface.doc.elim "" docComment) [] := by
    rw [hdoc]
    exact readsAs_empty
  have hlinkage : ReadsAs "#ifdef __cplusplus\nextern \"C\" \x7b\n#endif\n\n"
      [.name "extern", .quoted "C", .mark '{'] :=
    readsAs_fixed "#ifdef __cplusplus\nextern \"C\" \x7b\n#endif\n" (by decide +kernel) (by decide)
  have hcomment : ReadsAs "/* C API functions */\n" [] :=
    readsAs_fixed "/* C API functions */" (by decide +kernel) (by decide)
  have hflag : ReadsAs s!"#ifdef {interface.names.moduleFlag}\n" [] :=
    readsAs_ifdef hnames .moduleFlag (by decide)
  have helse : ReadsAs "\n#else\n" [] := readsAs_fixed "\n#else" (by decide +kernel) (by decide)
  have hendif : ReadsAs "#endif\n\n" [] := readsAs_fixed "#endif\n" (by decide +kernel) (by decide)
  have hclose : ReadsAs "#ifdef __cplusplus\n\x7d\n#endif\n" [.mark '}'] :=
    readsAs_fixed "#ifdef __cplusplus\n\x7d\n#endif" (by decide +kernel) (by decide)
  have hstart := (((readsAs_guard hnames).append hbanner).append hdocComment).append
    readsAs_blankLine
  have hdefinitions := (hstart.append (readsAs_of_tokenize_blank htypes)).append hlinkage
  have hmacros := (((((hdefinitions.append_gap hcomment).append_gap
    (readsAs_functionMacros hsignatures)).append_gap readsAs_blankLine).append_gap
    (readsAs_countDefinition hnames)).append_gap readsAs_blankLine).append_gap hflag
  have hconsumer := readsAs_consumerSection hnames hsymbols hvalid.capsuleKey_fits
  have hsections := (((hmacros.append (readsAs_providerSection hnames hsymbols)).append_gap
    helse).append hconsumer).append_gap hendif
  have hwhole := (hsections.append hclose).append_gap (readsAs_guardEnd hnames)
  delta header
  simpa only [headerWords, String.append_assoc, List.append_assoc, List.nil_append] using hwhole

/-- The header for extracted functions has the tokens of its type definitions and, after them, those
of its declarations. -/
theorem tokenize_header {names : Names} {source typeDefinitions : String}
    {signatures : List Signature} {types : List Token}
    (hextract : extractSignatures names.exportPrefix source = .ok signatures)
    (hvalid : (⟨names, Slot.assign signatures, none⟩ : Interface).validate = .ok ())
    (htypes : tokenize (String.ofList (Text.trimEnd typeDefinitions.toList)) = .ok types) :
    ∃ tokens,
      tokenize ((⟨names, Slot.assign signatures, none⟩ : Interface).header typeDefinitions) =
        .ok tokens ∧
      tokens.map Token.word = types.map Token.word ++
        (⟨names, Slot.assign signatures, none⟩ : Interface).headerWords := by
  have hsignatures := forall_mem_assign (fitsDirectives_of_extractSignatures hextract)
  apply tokenize_of_readsAs
  exact readsAs_header (validate_eq_ok_iff.mp hvalid) rfl hsignatures htypes

/-- The capsule key holds the marks of comments. -/
def customNames : Names where
  capsuleKey := "/* // '"
  lookupFunction := "find_table"

/-- A line comment, and a directive that a backslash continues at the end of the text. -/
def openTypes : String := "typedef int t; // handles\n#define WIDE \\\n"

theorem tokenize_header_openTypes :
    extractSignatures customNames.exportPrefix splicedSample = .ok splicedSignatures ∧
      (⟨customNames, Slot.assign splicedSignatures, none⟩ : Interface).validate = .ok () ∧
      ∃ tokens,
        tokenize ((⟨customNames, Slot.assign splicedSignatures, none⟩ : Interface).header openTypes) =
          .ok tokens ∧
        tokens.map Token.word = [.name "typedef", .name "int", .name "t", .mark ';'] ++
          (⟨customNames, Slot.assign splicedSignatures, none⟩ : Interface).headerWords := by
  have hextract : extractSignatures customNames.exportPrefix splicedSample =
      .ok splicedSignatures := extractSignatures_splicedSample
  have hvalid : (⟨customNames, Slot.assign splicedSignatures, none⟩ : Interface).validate =
      .ok () := by
    decide +kernel
  have htypes : tokenize (String.ofList (Text.trimEnd openTypes.toList)) =
      .ok [⟨.identifier, "typedef", 1, false⟩, ⟨.identifier, "int", 1, true⟩,
        ⟨.identifier, "t", 1, true⟩, ⟨.punctuation, ";", 1, false⟩] := by
    decide +kernel
  exact ⟨hextract, hvalid, tokenize_header hextract hvalid htypes⟩

end ExportTable.Interface
