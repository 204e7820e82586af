import ExportTable.CommandLine
import ExportTable.Proofs.Interface.MacroLines
import ExportTable.Proofs.Recipe.Delivery

/-!
# Previews of a build

The commands that print show what `generate` would leave behind from the same configuration. If it
succeeds and its files are different ones, the header and the info artifact are printed as they stand
in their files, the version is the one in the info artifact, and the list says what the macros in the
header say. If it fails before it writes, the header, or else the info artifact, fails with its error.

The list has an entry for each index macro. An entry is a line of its own unless the macros go on over
the end of a line, as they do where a literal holds a line feed.
-/

namespace ExportTable

open CSource Extraction Interface

/-- An interface that is extracted is valid, and its texts fit into its macros. -/
theorem Recipe.interface_eq_ok {recipe : Recipe} {files : FileStore} {interface : Interface}
    (h : recipe.interface files = .ok interface) : interface.Valid ∧ interface.FitsHeader := by
  unfold Recipe.interface at h
  split at h
  · cases h
  obtain ⟨source, -, h⟩ := bind_eq_ok_iff.mp h
  split at h
  · cases h
  next signatures hsignatures =>
  dsimp only at h
  split at h
  · cases h
  next hvalid =>
  obtain rfl := Except.ok.inj h
  exact ⟨validate_eq_ok_iff.mp hvalid, fitsHeader_of_extractSignatures _ hsignatures⟩

namespace CommandLine

variable {c : Configuration} {host : Host}

/-! ## Runs that print -/

/-- The run prints the text and changes nothing. -/
def Command.Prints (command : Command) (c : Configuration) (host : Host) (text : String) : Prop :=
  command.run c host = ⟨host.files, text, .success⟩

/-- The run prints and changes nothing and says why it failed. -/
def Command.Reports (command : Command) (c : Configuration) (host : Host) (e : BuildError) : Prop :=
  ∃ context, command.run c host = ⟨host.files, "", .failure ⟨context, e.causes⟩⟩

theorem prints_header {text : String}
    (h : (Recipe.ofConfiguration c).header host.files = .ok text) :
    Command.header.Prints c host text := by
  simp only [Command.Prints, Command.run, h]
  rfl

theorem reports_header {e : BuildError}
    (h : (Recipe.ofConfiguration c).header host.files = .error e) :
    Command.header.Reports c host e := by
  refine ⟨"Failed to generate the header", ?_⟩
  simp only [Command.run, h]
  rfl

theorem prints_info {text : String} (h : (Recipe.ofConfiguration c).infoText host = .ok text) :
    Command.info.Prints c host text := by
  simp only [Command.Prints, Command.run, h]
  rfl

theorem reports_info {e : BuildError} (h : (Recipe.ofConfiguration c).infoText host = .error e) :
    Command.info.Reports c host e := by
  refine ⟨"Failed to generate the info artifact", ?_⟩
  simp only [Command.run, h]
  rfl

theorem prints_list {interface : Interface}
    (h : (Recipe.ofConfiguration c).interface host.files = .ok interface) :
    Command.list.Prints c host (listText interface) := by
  simp only [Command.Prints, Command.run, h]
  rfl

/-- The version command resolves the version as a build does. -/
theorem resolver_eq (c : Configuration) : resolver c = (Recipe.ofConfiguration c).resolver := by
  rw [resolver, Recipe.resolver]
  cases hfile : c.paths.versionFile with
  | none => simp only [Recipe.ofConfiguration, hfile, Option.getD_none]
  | some file => simp only [Recipe.ofConfiguration, hfile, Option.getD_some]

theorem prints_version {version : String}
    (h : (Recipe.ofConfiguration c).version host = .ok version) :
    ∃ source, Command.version.Prints c host s!"{version} ({sourceText source})\n" := by
  have hfixed : (Recipe.ofConfiguration c).fixedVersion = none := rfl
  unfold Recipe.version at h
  rw [hfixed] at h
  dsimp only at h
  split at h
  · next resolved source hresolved =>
    obtain rfl := Except.ok.inj h
    refine ⟨source, ?_⟩
    simp only [Command.Prints, Command.run, versionLine, resolver_eq, hresolved]
    rfl
  · cases h

/-! ## The list -/

theorem listLine_eq (exportPrefix : String) (slot : Slot) :
    listLine exportPrefix slot = slotLine exportPrefix slot ++ "\n" := by
  rw [listLine, slotLine, shownLine, toList_toString_nat]
  rfl

theorem listText_eq (interface : Interface) :
    listText interface =
      String.join (interface.slots.map (slotLine interface.names.exportPrefix · ++ "\n")) ++
        s!"{interface.size} functions\n" := by
  rw [listText, funext (listLine_eq interface.names.exportPrefix)]

/-- The entry of a function shows what the macros of a text say. A return type that ends in a
backslash is left out: its macro takes in the definition of the parameters. -/
structure EntryShows (macros exportPrefix : String) (slot : Slot) : Prop where
  index : macroNumber? macros (slot.indexMacro exportPrefix) = some slot.index
  described : ¬ EndsInBackslash slot.signature.returnType.toList →
    describedBy? (definedIn macros) (slot.symbol exportPrefix) = some (slotLine exportPrefix slot)
  /-- A line feed stands after a backslash, and the entry does not end in one. -/
  continued : Continued (slotLine exportPrefix slot).toList ∧
    ¬ EndsInBackslash (slotLine exportPrefix slot).toList
  feed : '\n' ∈ (slotLine exportPrefix slot).toList ↔
    '\n' ∈ slot.signature.returnType.toList ∨ '\n' ∈ slot.signature.parameters.toList

/-- The list has the entries of the index macros in their order, and last the number that the count
macro stands for. -/
structure ListsMacros (interface : Interface) (header list : String) : Prop where
  header : ∃ before after,
    header = before ++ "/* C API functions */\n" ++ interface.sharedMacros ++ after
  symbols : indexedSymbols interface.sharedMacros =
    interface.slots.map fun slot ↦ slot.symbol interface.names.exportPrefix
  list : ∃ count, macroNumber? interface.sharedMacros interface.names.countMacro = some count ∧
    list = String.join (interface.slots.map (slotLine interface.names.exportPrefix · ++ "\n")) ++
      s!"{count} functions\n"
  entries : ∀ slot ∈ interface.slots,
    EntryShows interface.sharedMacros interface.names.exportPrefix slot

theorem listsMacros {recipe : Recipe} {files : FileStore} {interface : Interface}
    (h : recipe.interface files = .ok interface) (typeDefinitions : String) :
    ListsMacros interface (interface.header typeDefinitions) (listText interface) := by
  obtain ⟨hvalid, hfits⟩ := Recipe.interface_eq_ok h
  refine ⟨?_, indexedSymbols_sharedMacros hvalid hfits,
    ⟨interface.size, macroNumber?_countMacro hvalid hfits, listText_eq interface⟩,
    fun slot hslot ↦ ?_⟩
  · obtain ⟨before, provider, consumer, after, hheader⟩ :=
      exists_header_eq_sharedMacros interface typeDefinitions
    refine ⟨before, provider ++ interface.initializer ++ consumer ++ interface.callMacros ++ after,
      ?_⟩
    simp only [hheader, String.append_assoc]
  · exact
      { index := macroNumber?_indexMacro hvalid hfits hslot
        described := describedBy?_symbol hvalid hfits hslot
        continued := slotLine_fits (hfits slot hslot)
        feed := feed_mem_slotLine_iff (hfits slot hslot).isIdentifier }

/-! ## What `generate` leaves behind -/

/-- The paths at which `generate` writes. -/
def writtenPaths (c : Configuration) : Recipe.Output where
  headerPath := c.paths.outDir.join c.paths.headerName
  infoPath :=
    if (Recipe.ofConfiguration c).hasTables then
      some (c.paths.outDir.join c.metadata.format.fileName)
    else none

theorem eq_writtenPaths {output : Recipe.Output}
    (h : ((Recipe.ofConfiguration c).build host).result = .ok output) :
    output = writtenPaths c := by
  have hinfo := Recipe.isSome_infoPath h
  obtain ⟨artifacts, hartifacts, hwrite, -⟩ := Recipe.build_eq_ok h
  have hdirectory : artifacts.directory = c.paths.outDir :=
    (Except.ok.inj (Recipe.artifacts_eq_ok hartifacts).1).symm
  obtain ⟨created, headed, -, -, ⟨-, -, rfl⟩ | ⟨info, -, -, rfl⟩⟩ :=
    Recipe.writeArtifacts_eq_ok_iff.mp hwrite
  · rw [writtenPaths, ← hinfo, hdirectory]
    rfl
  · rw [writtenPaths, ← hinfo, hdirectory]
    rfl

/-- What the previews print is what a run left in its files. -/
structure ShowsFiles (c : Configuration) (host : Host) (files : FileStore) : Prop where
  header : ∃ interface header list,
    (Recipe.ofConfiguration c).interface host.files = .ok interface ∧
    files.readText (writtenPaths c).headerPath = .ok header ∧
    Command.header.Prints c host header ∧ Command.list.Prints c host list ∧
    ListsMacros interface header list
  info : c.paths.opcodes ≠ none → c.paths.elementTypes ≠ none → ∃ version source rest,
    files.readText (c.paths.outDir.join c.metadata.format.fileName) =
      .ok (c.metadata.format.lead ++ c.metadata.format.literal version ++ rest) ∧
    Command.info.Prints c host
      (c.metadata.format.lead ++ c.metadata.format.literal version ++ rest) ∧
    Command.version.Prints c host s!"{version} ({sourceText source})\n"

theorem hasTables_ofConfiguration (hopcodes : c.paths.opcodes ≠ none)
    (htypes : c.paths.elementTypes ≠ none) : (Recipe.ofConfiguration c).hasTables :=
  Bool.and_eq_true_iff.mpr ⟨Option.isSome_iff_ne_none.mpr hopcodes,
    Option.isSome_iff_ne_none.mpr htypes⟩

theorem showsFiles (h : ((Recipe.ofConfiguration c).build host).result = .ok (writtenPaths c))
    (hapart : (writtenPaths c).Apart ((Recipe.ofConfiguration c).build host).files) :
    ShowsFiles c host ((Recipe.ofConfiguration c).build host).files := by
  obtain ⟨artifacts, hartifacts, -⟩ := Recipe.build_eq_ok h
  obtain ⟨-, hheader, -⟩ := Recipe.artifacts_eq_ok hartifacts
  refine ⟨?_, fun hopcodes htypes ↦ ?_⟩
  · obtain ⟨typeDefinitions, -, hrendered⟩ := bind_eq_ok_iff.mp hheader
    obtain ⟨interface, hinterface, hrendered⟩ := bind_eq_ok_iff.mp hrendered
    have hlists := listsMacros hinterface typeDefinitions
    rw [Except.ok.inj hrendered] at hlists
    exact ⟨interface, artifacts.header, listText interface, hinterface,
      (Recipe.readText_headerPath_iff h hheader).mpr hapart, prints_header hheader,
      prints_list hinterface, hlists⟩
  · have hpath : (writtenPaths c).infoPath =
        some (c.paths.outDir.join c.metadata.format.fileName) :=
      if_pos (hasTables_ofConfiguration hopcodes htypes)
    obtain ⟨text, htext, hread⟩ := Recipe.readText_infoPath h hpath
    obtain ⟨version, rest, hversion, rfl⟩ := Recipe.version_of_infoText htext
    obtain ⟨source, hprints⟩ := prints_version hversion
    exact ⟨version, source, rest, hread, prints_info htext, hprints⟩

/-- The first preview that fails has the error. -/
def FailsAlike (c : Configuration) (host : Host) (e : BuildError) : Prop :=
  Command.header.Reports c host e ∨
    (∃ text, Command.header.Prints c host text) ∧ Command.info.Reports c host e

theorem failsAlike {e : BuildError} (h : (Recipe.ofConfiguration c).artifacts host = .error e) :
    FailsAlike c host e := by
  rcases Recipe.artifacts_eq_error rfl h with hheader | ⟨⟨text, hheader⟩, hinfo⟩
  · exact .inl (reports_header hheader)
  · exact .inr ⟨⟨text, prints_header hheader⟩, reports_info hinfo⟩

/-- The artifacts are rendered, and then one cannot be written. -/
def FailsInWriting (c : Configuration) (host : Host) (e : BuildError) : Prop :=
  ∃ artifacts files fault, (Recipe.ofConfiguration c).artifacts host = .ok artifacts ∧
    (Recipe.ofConfiguration c).writeArtifacts host.files artifacts = (files, .error fault) ∧
    e = .io fault

theorem failsAlike_or_failsInWriting {e : BuildError}
    (h : ((Recipe.ofConfiguration c).build host).result = .error e) :
    FailsAlike c host e ∨ FailsInWriting c host e := by
  obtain ⟨fault, hartifacts, hbuild⟩ | ⟨artifacts, files, hartifacts, hwritten⟩ :=
    Recipe.build_cases (.ofConfiguration c) host
  · rw [hbuild] at h
    obtain rfl := Except.error.inj h
    exact .inl (failsAlike hartifacts)
  obtain ⟨fault, hwrite, hbuild⟩ | ⟨output, -, hbuild⟩ := hwritten
  · rw [hbuild] at h
    exact .inr ⟨artifacts, files, fault, hartifacts, hwrite, (Except.error.inj h).symm⟩
  · rw [hbuild] at h
    cases h

/-- A run of `generate` that succeeds says where it wrote, and the previews from the same
configuration show what stands there if the two files are different ones. If it fails before it
writes, the first preview that fails has its causes. -/
theorem previews_agree (c : Configuration) (host : Host) :
    let outcome := Command.generate.run c host
    match outcome.ending with
    | .success =>
      outcome.printed =
          (Recipe.ofConfiguration c).announcements host ++ outputText (writtenPaths c) ∧
        ((writtenPaths c).Apart outcome.files → ShowsFiles c host outcome.files)
    | .failure report => ∃ e, report.causes = e.causes ∧
        (FailsAlike c host e ∨ FailsInWriting c host e)
    | .misuse => False := by
  simp only [Command.run, generate]
  cases h : ((Recipe.ofConfiguration c).build host).result with
  | ok output =>
    obtain rfl := eq_writtenPaths h
    obtain ⟨artifacts, hartifacts, hwrite, -⟩ := Recipe.build_eq_ok h
    refine ⟨?_, showsFiles h⟩
    rw [Recipe.build_of_written hartifacts hwrite]
    rfl
  | error e => exact ⟨e, rfl, failsAlike_or_failsInWriting h⟩

/-- A provider whose only function has a line feed in a literal of its parameter list. -/
def brokenLineHost : Host :=
  { Recipe.tablesHost with
    files := (Recipe.tablesHost.files.put ["VERSION"] (.file "1.2-3\n".toUTF8)).put ["api.c"]
      (.file "static int BhAPI_f(int a[sizeof(\"x\\\ny\")]) \x7b \x7d".toUTF8) }

def tablesConfiguration : Configuration where
  paths :=
    { providerSource := some "api.c"
      typeDefinitions := some "types.h"
      opcodes := some "opcodes.json"
      elementTypes := some "types.json" }

theorem ending_brokenLineHost :
    (Command.generate.run tablesConfiguration brokenLineHost).ending = .success := by
  decide +kernel

theorem apart_brokenLineHost : (writtenPaths tablesConfiguration).Apart
    (Command.generate.run tablesConfiguration brokenLineHost).files := by
  intro path hpath
  have hinfo : (writtenPaths tablesConfiguration).infoPath = some "out/_info.json" := by
    decide +kernel
  obtain rfl := Option.some.inj (hinfo.symm.trans hpath)
  decide +kernel

theorem previews_agree_brokenLineHost :
    ShowsFiles tablesConfiguration brokenLineHost
        (Command.generate.run tablesConfiguration brokenLineHost).files ∧
      ∃ e, ["Version error: version unavailable: git not found: cannot find binary path; " ++
            "fallback file ./VERSION could not be read: No such file or directory (os error 2)",
          "version unavailable: git not found: cannot find binary path; " ++
            "fallback file ./VERSION could not be read: No such file or directory (os error 2)",
          "No such file or directory (os error 2)"] = e.causes ∧
        FailsAlike tablesConfiguration Recipe.tablesHost e := by
  have hfailure : (Command.generate.run tablesConfiguration Recipe.tablesHost).ending = .failure
      ⟨"Failed to generate the C API",
        (BuildError.version (.unavailable "git" .programMissing "./VERSION" .noSuchFile)).causes⟩ := by
    decide +kernel
  have hartifacts : ((Recipe.ofConfiguration tablesConfiguration).artifacts
      Recipe.tablesHost).toOption = none := by
    decide +kernel
  have hshows := previews_agree tablesConfiguration brokenLineHost
  have hfails := previews_agree tablesConfiguration Recipe.tablesHost
  simp only [ending_brokenLineHost] at hshows
  simp only [hfailure] at hfails
  obtain ⟨e, hcauses, hfails⟩ := hfails
  refine ⟨hshows.2 apart_brokenLineHost, e, hcauses, hfails.resolve_right ?_⟩
  rintro ⟨artifacts, _, _, hsome, -⟩
  rw [hsome] at hartifacts
  cases hartifacts

def brokenLineInterface : Interface where
  names := {}
  slots := Slot.assign [⟨"int", "f", "(int a[sizeof(\"x\\\ny\")])"⟩]

/-- The block of the header has one index macro, and the list takes two lines for it. -/
theorem list_takes_more_lines : ¬ ∀ (c : Configuration) (host : Host) (interface : Interface),
    (Command.generate.run c host).ending = .success →
    (writtenPaths c).Apart (Command.generate.run c host).files →
    (Recipe.ofConfiguration c).interface host.files = .ok interface →
      (Text.lines (Command.list.run c host).printed.toList).length =
        (indexedSymbols interface.sharedMacros).length + 1 := by
  intro h
  have hinterface : (Recipe.ofConfiguration tablesConfiguration).interface brokenLineHost.files =
      .ok brokenLineInterface := by
    decide +kernel
  have hlist : (Text.lines
      (Command.list.run tablesConfiguration brokenLineHost).printed.toList).length = 3 := by
    decide +kernel
  obtain ⟨hvalid, hfits⟩ := Recipe.interface_eq_ok hinterface
  have hlines := h tablesConfiguration brokenLineHost brokenLineInterface ending_brokenLineHost
    apart_brokenLineHost hinterface
  rw [hlist, indexedSymbols_sharedMacros hvalid hfits, List.length_map] at hlines
  exact absurd hlines (by decide)

end CommandLine

end ExportTable
