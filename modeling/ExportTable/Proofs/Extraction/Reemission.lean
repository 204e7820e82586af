import ExportTable.Proofs.Extraction.Placement
import ExportTable.Proofs.Extraction.SignatureTexts

/-!
# Extracting from written-out signatures

Signatures that were extracted can be written out as definitions with empty bodies. The text of each
is read as the tokens of the declaration it comes from, whatever they are, and what the scanner
decides about a declaration does not depend on where its tokens stand. So the same signatures are
extracted from the text, in the same order.
-/

namespace ExportTable

namespace Signature

/-- The definition of the function, with an empty body. -/
def definition (f : Signature) (exportPrefix : String) : String :=
  "static " ++ f.prototype exportPrefix ++ " \x7b\x7d\n"

def definitions (exportPrefix : String) (signatures : List Signature) : String :=
  String.join (signatures.map (·.definition exportPrefix))

end Signature

namespace Extraction

open CSource

/-! ## Tokens in other places -/

theorem openParentheses_bare (depth : Nat) (tokens : List Token) :
    openParentheses depth (tokens.map Token.bare) = openParentheses depth tokens := by
  rw [openParentheses, List.foldl_map]
  rfl

theorem staysOpen_bare {depth : Nat} {tokens : List Token} :
    StaysOpen depth (tokens.map Token.bare) ↔ StaysOpen depth tokens := by
  induction tokens generalizing depth with
  | nil => rfl
  | cons t ts ih =>
    rw [List.map_cons, StaysOpen, StaysOpen]
    exact and_congr_right fun _ ↦ ih

theorem opens_bare (tokens : List Token) :
    (tokens.map Token.bare).head?.any (·.isPunctuation '(') =
      tokens.head?.any (·.isPunctuation '(') := by
  cases tokens <;> rfl

/-- A parameter list is one wherever it stands. -/
theorem closeParentheses_of_bare {tokens others : List Token}
    (hsame : others.map Token.bare = tokens.map Token.bare)
    (h : closeParentheses 0 tokens = some (tokens, [])) :
    closeParentheses 0 others = some (others, []) := by
  have hbare := closeParentheses_map word_bare 0 others
  rw [hsame, closeParentheses_map word_bare, h] at hbare
  obtain ⟨⟨inner, rest⟩, hclose, heq⟩ := Option.map_eq_some_iff.mp hbare.symm
  have hnil : rest = [] := by
    have hpair := (Prod.mk.inj heq).2
    exact List.map_eq_nil_iff.mp hpair
  have hsplit := eq_append_of_closeParentheses hclose
  rw [hnil, List.append_nil] at hsplit
  rw [hclose, hnil, ← hsplit]

theorem isPunctuation_of_bare {tokens others : List Token} {c : Char}
    (hsame : others.map Token.bare = tokens.map Token.bare)
    (h : ∀ t ∈ tokens, t.isPunctuation c = false) : ∀ t ∈ others, t.isPunctuation c = false := by
  intro t ht
  have hmem : t.bare ∈ tokens.map Token.bare := by
    rw [← hsame]
    exact List.mem_map_of_mem ht
  obtain ⟨u, hu, hbare⟩ := List.mem_map.mp hmem
  calc
    t.isPunctuation c = t.bare.isPunctuation c := (t.isPunctuation_bare c).symm
    _ = u.bare.isPunctuation c := by rw [hbare]
    _ = false := h u hu

/-! ## Texts -/

/-- The keyword begins no directive, so it may begin a line. -/
theorem exists_reads_static (s : LexState) (rest : List Char) :
    ∃ (keyword : Token) (last : LexState), Reads s ("static ".toList ++ rest) [keyword] last rest ∧
      last.lineStart = false ∧ keyword.isWord "static" := by
  have htext : "static ".toList ++ rest = ['s', 't', 'a', 't', 'i', 'c'] ++ ' ' :: rest := by simp
  have hkeyword : IsLexeme .identifier ['s', 't', 'a', 't', 'i', 'c'] :=
    .identifier (by decide) (by decide)
  have hword : Reads s (['s', 't', 'a', 't', 'i', 'c'] ++ ' ' :: rest) _ _ _ :=
    reads_lexeme hkeyword (fun next hnext ↦ by cases hnext; rfl) fun hmark ↦ by cases hmark
  obtain ⟨last, hlast, _, hgap⟩ := exists_reads_blank
    (s := s.after (some .identifier) ['s', 't', 'a', 't', 'i', 'c']) rfl
  rw [htext]
  exact ⟨_, last, hword.trans (hgap rest), hlast, by simp [Token.isWord]⟩

/-- The text of an empty body. -/
theorem exists_reads_body {s : LexState} (hline : s.lineStart = false) (rest : List Char) :
    ∃ (opening closing : Token) (last : LexState),
      Reads s (' ' :: '{' :: '}' :: '\n' :: rest) [opening, closing] last rest ∧
      opening.isPunctuation '{' ∧ closing.isPunctuation '}' := by
  obtain ⟨first, _, _, hgap⟩ := exists_reads_blank hline
  have hopening : IsLexeme .punctuation ['{'] :=
    .punctuation (by decide) (by decide) (by decide) (by decide)
  have hclosing : IsLexeme .punctuation ['}'] :=
    .punctuation (by decide) (by decide) (by decide) (by decide)
  have hfirst : Reads first (['{'] ++ '}' :: '\n' :: rest) _ _ _ :=
    reads_lexeme hopening (fun next _ ↦ rfl) fun hmark ↦ by cases hmark
  have hsecond : Reads (first.after (some .punctuation) ['{']) (['}'] ++ '\n' :: rest) _ _ _ :=
    reads_lexeme hclosing (fun next _ ↦ rfl) fun hmark ↦ by cases hmark
  have hend : isSpace '\n' := by decide
  exact ⟨_, _, _, (hgap _).trans (hfirst.trans (hsecond.trans (reads_space hend))),
    Token.isPunctuation_iff.mpr ⟨rfl, rfl⟩, Token.isPunctuation_iff.mpr ⟨rfl, rfl⟩⟩

namespace Export

variable {exportPrefix : String} {f : Signature}

/-- The declaration with its tokens in other places. -/
def respell (e : Export exportPrefix f) {returnType parameters : List Token} {symbol : Token}
    (hreturn : Respells e.returnType returnType) (hsymbol : symbol.bare = e.symbol.bare)
    (hparameters : Respells e.parameters parameters) : Export exportPrefix f :=
  have hsame : (returnType ++ symbol :: parameters).map Token.bare = e.tokens.map Token.bare := by
    simp [tokens, hreturn.spelling, hsymbol, hparameters.spelling]
  { returnType := returnType
    symbol := symbol
    parameters := parameters
    returnType_ne_nil := by
      intro hnil
      have hlength := congrArg List.length hreturn.spelling
      rw [hnil, List.length_map, List.length_map] at hlength
      exact e.returnType_ne_nil (List.length_eq_zero_iff.mp hlength.symm)
    isReturnType := isPunctuation_of_bare hreturn.spelling e.isReturnType
    isIdentifier := (congrArg Token.kind hsymbol).trans e.isIdentifier
    isExported := (congrArg Token.text hsymbol).trans e.isExported
    name_ne_empty := e.name_ne_empty
    opens := by
      rw [← opens_bare, hparameters.spelling, opens_bare]
      exact e.opens
    closes := closeParentheses_of_bare hparameters.spelling e.closes
    staysOpen := by
      rw [← staysOpen_bare, hsame, staysOpen_bare]
      exact e.staysOpen
    balances := by
      rw [← openParentheses_bare, hsame, openParentheses_bare]
      exact e.balances
    render_returnType := hreturn.rendering.trans e.render_returnType
    render_parameters := hparameters.rendering.trans e.render_parameters }

/-- A parameter list does not go on with the symbol before it. -/
theorem endsBefore_parameters (e : Export exportPrefix f) (rest : List Char) :
    e.symbol.EndsBefore ((render e.parameters).toList ++ rest) := by
  have hopens := e.opens
  cases hparameters : e.parameters with
  | nil =>
    rw [hparameters] at hopens
    cases hopens
  | cons opening back =>
    rw [hparameters] at hopens
    have htext : opening.text = "(" := (Token.isPunctuation_iff.mp hopens).2
    intro next hnext
    rw [toList_render_cons, htext] at hnext
    cases hnext
    rw [e.isIdentifier]
    rfl

/-- The prototype is read as the declaration. -/
theorem exists_reads_prototype (e : Export exportPrefix f) (h : Legible e.tokens) {s : LexState}
    (hline : s.lineStart = false) (rest : List Char) :
    ∃ (other : Export exportPrefix f) (last : LexState), last.lineStart = false ∧
      Reads s ((f.prototype exportPrefix).toList ++ ' ' :: rest) other.tokens last
        (' ' :: rest) := by
  obtain ⟨hreturn, hsymbol, hparameters⟩ := e.legible_parts h
  have hblank : isSpace ' ' := by decide
  have htext : (f.prototype exportPrefix).toList ++ ' ' :: rest =
      (render e.returnType).toList ++ ' ' :: (e.symbol.text.toList ++
        ((render e.parameters).toList ++ ' ' :: rest)) := by
    rw [e.render_returnType, e.isExported, e.render_parameters]
    simp [Signature.prototype]
  obtain ⟨returnType, first, hreads, hfirst, hreturnType⟩ :=
    reads_render hreturn hline fun u _ ↦ u.endsBefore_space hblank
      (e.symbol.text.toList ++ ((render e.parameters).toList ++ ' ' :: rest))
  obtain ⟨second, hsecond, _, hgap⟩ := exists_reads_blank hfirst
  have hname := reads_token (s := second) hsymbol (e.endsBefore_parameters (' ' :: rest))
    fun _ ↦ hsecond
  obtain ⟨parameters, last, hlist, hlast, hsame⟩ :=
    reads_render hparameters (s := second.after (some e.symbol.kind) e.symbol.text.toList) rfl
      fun u _ ↦ u.endsBefore_space hblank rest
  have hbare : Token.bare { e.symbol with line := second.line, spaced := second.spaced } =
      e.symbol.bare := rfl
  refine ⟨e.respell hreturnType hbare hsame, last, hlast, ?_⟩
  rw [htext]
  exact hreads.trans ((hgap _).trans (hname.trans hlist))

/-- The text of the definition is read as the declaration and an empty body. -/
theorem exists_reads_definition (e : Export exportPrefix f) (h : Legible e.tokens) (s : LexState)
    (rest : List Char) :
    ∃ (keyword opening closing : Token) (other : Export exportPrefix f) (last : LexState),
      Reads s ((f.definition exportPrefix).toList ++ rest)
        (keyword :: (other.tokens ++ [opening, closing])) last rest ∧
      keyword.isWord "static" ∧ opening.isPunctuation '{' ∧ closing.isPunctuation '}' := by
  have htext : (f.definition exportPrefix).toList ++ rest =
      "static ".toList ++ ((f.prototype exportPrefix).toList ++
        ' ' :: '{' :: '}' :: '\n' :: rest) := by
    simp [Signature.definition]
  obtain ⟨keyword, first, hword, hfirst, hkeyword⟩ := exists_reads_static s
    ((f.prototype exportPrefix).toList ++ ' ' :: '{' :: '}' :: '\n' :: rest)
  obtain ⟨other, second, hsecond, hprototype⟩ :=
    e.exists_reads_prototype h hfirst ('{' :: '}' :: '\n' :: rest)
  obtain ⟨opening, closing, last, hbody, hopening, hclosing⟩ := exists_reads_body hsecond rest
  have hreads := hword.trans (hprototype.trans hbody)
  rw [← htext] at hreads
  exact ⟨keyword, opening, closing, other, last, hreads, hkeyword, hopening, hclosing⟩

end Export

/-- The definitions are read as tokens in which the scanner finds the signatures. -/
theorem exists_reads_definitions {exportPrefix : String} {signatures : List Signature}
    (h : ∀ f ∈ signatures, ∃ e : Export exportPrefix f, Legible e.tokens) (s : LexState)
    (before : List Token) :
    ∃ tokens last, Reads s (Signature.definitions exportPrefix signatures).toList tokens last [] ∧
      (Scan.outside [] before).run exportPrefix tokens =
        .ok (Scan.outside [] (before ++ tokens), signatures) := by
  induction signatures generalizing s before with
  | nil =>
    refine ⟨[], s, .nil, ?_⟩
    rw [List.append_nil, Scan.run_nil]
  | cons f signatures ih =>
    obtain ⟨⟨e, he⟩, hrest⟩ := List.forall_mem_cons.mp h
    obtain ⟨keyword, opening, closing, other, middle, hreads, hkeyword, hopening, hclosing⟩ :=
      e.exists_reads_definition he s (Signature.definitions exportPrefix signatures).toList
    have hrun := other.run_definition hkeyword hopening hclosing before
    obtain ⟨tokens, last, hlater, hfound⟩ :=
      ih hrest middle (before ++ keyword :: (other.tokens ++ [opening, closing]))
    refine ⟨keyword :: (other.tokens ++ [opening, closing]) ++ tokens, last, ?_, ?_⟩
    · simpa [Signature.definitions, String.join_cons] using hreads.trans hlater
    · simpa using Scan.run_trans hrun hfound

/-- Extraction from the text of the signatures that it gave gives them again. -/
theorem extractSignatures_definitions {exportPrefix source : String}
    {signatures : List Signature} (h : extractSignatures exportPrefix source = .ok signatures) :
    extractSignatures exportPrefix (Signature.definitions exportPrefix signatures) =
      .ok signatures := by
  have hexports := Export.exists_of_extractSignatures h
  obtain ⟨written, last, hreads, hrun⟩ := exists_reads_definitions hexports .initial []
  have hwritten : tokenize (Signature.definitions exportPrefix signatures) = .ok written := by
    rw [tokenize, tokenizeFrom_of_reads hreads, tokenizeFrom]
    simp
  rw [extractSignatures, hwritten]
  exact extractFrom_of_run hrun rfl

/-- Its return type holds brackets that nothing opens, a number sign, and a literal that spans two
lines; its parameters are written on two lines around a comment. -/
def oddSample : String :=
  "static int \"x\\\ny\" \x7d) # 1_t**A_f(int a,\n  /* ( */ char b[sizeof \";)\"]) \x7b \x7d"

def oddSignature : Signature where
  returnType := "int \"x\\\ny\" \x7d) # 1_t**"
  name := "f"
  parameters := "(int a, char b[sizeof \";)\"])"

theorem extractSignatures_definitions_oddSample :
    extractSignatures "A" oddSample = .ok [oddSignature] ∧
      extractSignatures "A" (Signature.definitions "A" [oddSignature]) = .ok [oddSignature] := by
  have hextract : extractSignatures "A" oddSample = .ok [oddSignature] := by decide +kernel
  exact ⟨hextract, extractSignatures_definitions hextract⟩

end Extraction

end ExportTable
