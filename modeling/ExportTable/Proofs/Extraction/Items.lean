import ExportTable.Proofs.Extraction.Declarators
import ExportTable.Proofs.Extraction.Nesting

/-!
# Well-formed provider sources

A well-formed source is a sequence of items at the top level: function definitions, `static`
declarations without a body, linkage blocks around further items, and plain runs, which declare
nothing `static` outside their braces. `Items` relates the tokens of such a sequence to the
signatures of its exported definitions, in source order. Every item leaves the scanner outside
declarations with the scopes it found, so the scanner finds exactly these signatures.
-/

namespace ExportTable.Extraction

open CSource

/-! ## Grammar -/

/-- What a return type may consist of. -/
def IsTypeToken (t : Token) : Prop :=
  ∀ c ∈ ['(', ')', '{', '}', ';', '='], t.isPunctuation c = false

instance (t : Token) : Decidable (IsTypeToken t) := List.decidableBAll _ _

/-- Parentheses around tokens whose parentheses match; braces, `;` and `=` may stand among them. -/
structure ParameterList where
  opening : Token
  inner : List Token
  closing : Token
  isOpening : opening.isPunctuation '('
  balanced : Balanced '(' ')' inner
  isClosing : closing.isPunctuation ')'

def ParameterList.tokens (parameters : ParameterList) : List Token :=
  parameters.opening :: (parameters.inner ++ [parameters.closing])

/-- A `static` function with its body; the body may hold anything whose braces match. -/
structure Definition where
  keyword : Token
  returnType : List Token
  symbol : Token
  parameters : ParameterList
  opening : Token
  body : List Token
  closing : Token
  isStatic : keyword.isWord "static"
  isReturnType : ∀ t ∈ returnType, IsTypeToken t
  isIdentifier : symbol.kind = .identifier
  isOpening : opening.isPunctuation '{'
  balanced : Balanced '{' '}' body
  isClosing : closing.isPunctuation '}'

namespace Definition

/-- What stands between `static` and the body. -/
def declared (d : Definition) : List Token := d.returnType ++ d.symbol :: d.parameters.tokens

def tokens (d : Definition) : List Token :=
  d.keyword :: (d.declared ++ d.opening :: (d.body ++ [d.closing]))

def signature (d : Definition) (name : String) : Signature :=
  ⟨render d.returnType, name, render d.parameters.tokens⟩

end Definition

/-- A `static` declaration up to the `;` or `=` that ends it. -/
structure Declaration where
  keyword : Token
  declared : List Token
  ending : Token
  isStatic : keyword.isWord "static"
  nested : Nested '(' ')' (endsDeclaration · = false) declared

def Declaration.tokens (d : Declaration) : List Token := d.keyword :: (d.declared ++ [d.ending])

def IsStringLiteral (t : Token) : Prop := t.kind = .literal ∧ t.text.toList.head? = some '"'

/-- A brace after these tokens opens a linkage block. -/
def EndsWithLinkage (tokens : List Token) : Prop :=
  ∃ front keyword literal, tokens = front ++ [keyword, literal] ∧ keyword.isWord "extern" ∧
    IsStringLiteral literal

/-- Tokens whose braces match, with no `static` outside the braces, and with no linkage block, given
the tokens before. -/
inductive PlainRun : List Token → List Token → Prop
  | nil {before : List Token} : PlainRun before []
  | token {before ts : List Token} {t : Token} (hopening : t.isPunctuation '{' = false)
      (hclosing : t.isPunctuation '}' = false) (hstatic : t.isWord "static" = false)
      (hrest : PlainRun (before ++ [t]) ts) : PlainRun before (t :: ts)
  | block {before inner ts : List Token} {first last : Token}
      (hfirst : first.isPunctuation '{') (hlinkage : ¬ EndsWithLinkage before)
      (hinner : Balanced '{' '}' inner) (hlast : last.isPunctuation '}')
      (hrest : PlainRun (before ++ first :: (inner ++ [last])) ts) :
      PlainRun before (first :: (inner ++ last :: ts))

/-- A sequence of items and the signatures of its exported definitions, given the tokens before. -/
inductive Items (exportPrefix : String) : List Token → List Token → List Signature → Prop
  | nil {before : List Token} : Items exportPrefix before [] []
  | exported {before rest : List Token} {signatures : List Signature} {name : String}
      (d : Definition) (hreturn : d.returnType ≠ [])
      (hsymbol : d.symbol.text = exportPrefix ++ "_" ++ name) (hname : name ≠ "")
      (hrest : Items exportPrefix (before ++ d.tokens) rest signatures) :
      Items exportPrefix before (d.tokens ++ rest) (d.signature name :: signatures)
  | unexported {before rest : List Token} {signatures : List Signature} (d : Definition)
      (hsymbol : ¬ (exportPrefix ++ "_").toList <+: d.symbol.text.toList)
      (hrest : Items exportPrefix (before ++ d.tokens) rest signatures) :
      Items exportPrefix before (d.tokens ++ rest) signatures
  | declaration {before rest : List Token} {signatures : List Signature} (d : Declaration)
      (hending : d.ending.isPunctuation ';')
      (hrest : Items exportPrefix (before ++ d.tokens) rest signatures) :
      Items exportPrefix before (d.tokens ++ rest) signatures
  | initialized {before run rest : List Token} {signatures : List Signature} (d : Declaration)
      (hending : d.ending.isPunctuation '=') (hrun : PlainRun (before ++ d.tokens) run)
      (hrest : Items exportPrefix (before ++ d.tokens ++ run) rest signatures) :
      Items exportPrefix before (d.tokens ++ run ++ rest) signatures
  | plain {before run rest : List Token} {signatures : List Signature}
      (hrun : PlainRun before run) (hrest : Items exportPrefix (before ++ run) rest signatures) :
      Items exportPrefix before (run ++ rest) signatures
  | linkage {before inner rest : List Token} {keyword literal opening closing : Token}
      {first later : List Signature} (hkeyword : keyword.isWord "extern")
      (hliteral : IsStringLiteral literal) (hopening : opening.isPunctuation '{')
      (hinner : Items exportPrefix (before ++ [keyword, literal, opening]) inner first)
      (hclosing : closing.isPunctuation '}')
      (hrest : Items exportPrefix (before ++ keyword :: literal :: opening :: (inner ++ [closing]))
        rest later) :
      Items exportPrefix before (keyword :: literal :: opening :: (inner ++ closing :: rest))
        (first ++ later)

/-! ## Declarations and definitions -/

theorem opensLinkage_iff {scopes : List Bool} {tokens : List Token} :
    (Scan.outside scopes tokens).opensLinkage ↔ EndsWithLinkage tokens := by
  constructor
  · intro h
    unfold Scan.opensLinkage at h
    split at h
    · rename_i literal keyword front hread
      simp only [Bool.and_eq_true, decide_eq_true_eq] at h
      refine ⟨front.reverse, keyword, literal, ?_, h.2, h.1.1, h.1.2⟩
      have hreverse : tokens.reverse = literal :: keyword :: front := hread
      rw [← List.reverse_reverse tokens, hreverse]
      simp
    · cases h
  · rintro ⟨front, keyword, literal, rfl, hkeyword, hliteral⟩
    simp [Scan.opensLinkage, Scan.outside, hkeyword, hliteral.1, hliteral.2]

theorem not_endsWithLinkage {tokens : List Token} {last : Token}
    (hlast : tokens.getLast? = some last) (h : last.kind ≠ .literal) :
    ¬ EndsWithLinkage tokens := by
  rintro ⟨front, keyword, literal, rfl, _, hliteral⟩
  have heq : literal = last := by simpa using hlast
  exact h (heq ▸ hliteral.1)

theorem ParameterList.nested {allowed : Token → Prop} (parameters : ParameterList) :
    Nested '(' ')' allowed parameters.tokens :=
  .group parameters.isOpening parameters.balanced parameters.isClosing .nil

namespace Definition

theorem nested_declared (d : Definition) :
    Nested '(' ')' (endsDeclaration · = false) d.declared := by
  apply Nested.append
  · apply Nested.of_forall
    intro t ht
    have h := d.isReturnType t ht
    simp only [IsTypeToken, List.forall_mem_cons] at h
    simp [endsDeclaration, h]
  · have h := Token.isPunctuation_of_kind (t := d.symbol) (by simp [d.isIdentifier])
    exact .token (h _) (h _) (by simp [endsDeclaration, h]) d.parameters.nested

theorem declarator?_declared (d : Definition) :
    declarator? d.declared = some ⟨d.returnType, d.symbol, d.parameters.tokens⟩ :=
  declarator?_of_first (fun t ht ↦ d.isReturnType t ht '(' (by simp)) d.isIdentifier
    d.parameters.isOpening

theorem readDeclaration_exported (d : Definition) {exportPrefix name : String}
    (hreturn : d.returnType ≠ []) (hsymbol : d.symbol.text = exportPrefix ++ "_" ++ name)
    (hname : name ≠ "") :
    readDeclaration exportPrefix d.declared (some d.opening) = .ok (some (d.signature name)) := by
  have hclose := closeParentheses_group d.parameters.isOpening d.parameters.balanced
    d.parameters.isClosing
  have hread : readDefinition exportPrefix name
      ⟨d.returnType, d.symbol, d.parameters.tokens⟩ = .ok (d.signature name) := by
    rw [readDefinition_eq_ok_iff]
    exact ⟨hname, hreturn, d.parameters.isOpening, hclose, rfl⟩
  rw [readDeclaration_of_exported d.declarator?_declared hsymbol d.isOpening, hread]
  rfl

theorem readDeclaration_unexported (d : Definition) {exportPrefix : String}
    (hsymbol : ¬ (exportPrefix ++ "_").toList <+: d.symbol.text.toList) :
    readDeclaration exportPrefix d.declared (some d.opening) = .ok none :=
  readDeclaration_of_unexported d.declarator?_declared hsymbol _

end Definition

/-! ## Reading an item -/

theorem run_nested {exportPrefix : String} {scopes : List Bool} (hscopes : scopes.all id)
    {keyword ending : Token} {declared : List Token} {found : Option Signature}
    (hkeyword : keyword.isWord "static")
    (hdeclared : Nested '(' ')' (endsDeclaration · = false) declared)
    (hending : endsDeclaration ending)
    (hread : readDeclaration exportPrefix declared (some ending) = .ok found)
    (before : List Token) :
    (Scan.outside scopes before).run exportPrefix (keyword :: (declared ++ [ending])) =
      .ok ((Scan.outside scopes (before ++ keyword :: declared)).pass ending, found.toList) := by
  have hstays : StaysOpen 0 declared := hdeclared.staysOpen fun _ _ h ↦ h
  rw [run_declaration exportPrefix hscopes before hkeyword hstays (hdeclared.openParentheses_eq 0)
    hending, hread, ok_map]

theorem run_definition {exportPrefix : String} {scopes : List Bool} (hscopes : scopes.all id)
    (d : Definition) {found : Option Signature}
    (hread : readDeclaration exportPrefix d.declared (some d.opening) = .ok found)
    (before : List Token) :
    (Scan.outside scopes before).run exportPrefix d.tokens =
      .ok (Scan.outside scopes (before ++ d.tokens), found.toList) := by
  -- The brace stands after a parenthesis, so it opens no linkage block.
  have hlinkage :
      (Scan.outside scopes (before ++ d.keyword :: d.declared)).opensLinkage = false := by
    have hkind := (Token.isPunctuation_iff.mp d.parameters.isClosing).1
    have hlast : (before ++ d.keyword :: d.declared).getLast? = some d.parameters.closing := by
      simp [Definition.declared, ParameterList.tokens, List.getLast?_cons]
    rw [Bool.eq_false_iff, Ne, opensLinkage_iff]
    exact not_endsWithLinkage hlast (by simp [hkind])
  have hdeclared := run_nested hscopes d.isStatic d.nested_declared
    (by simp [endsDeclaration, d.isOpening]) hread before
  rw [Scan.pass_opening d.isOpening, hlinkage] at hdeclared
  have hbody := run_body d.balanced exportPrefix (show (false :: scopes).all id = false by simp)
    (before ++ d.keyword :: d.declared ++ [d.opening])
  have hclosing := Scan.pass_closing d.isClosing (false :: scopes)
    (before ++ d.keyword :: d.declared ++ [d.opening] ++ d.body)
  have hrun := Scan.run_trans hdeclared (Scan.run_trans hbody
    (Scan.run_pass_cons rfl hclosing (Scan.run_nil exportPrefix _)))
  simpa [Definition.tokens] using hrun

theorem run_ending {exportPrefix : String} {scopes : List Bool} (hscopes : scopes.all id)
    (d : Declaration) (hending : d.ending.isPunctuation ';' ∨ d.ending.isPunctuation '=')
    (before : List Token) :
    (Scan.outside scopes before).run exportPrefix d.tokens =
      .ok (Scan.outside scopes (before ++ d.tokens), []) := by
  have hbraces : d.ending.isPunctuation '{' = false ∧ d.ending.isPunctuation '}' = false := by
    rcases hending with h | h <;> simp [Token.isPunctuation_of_ne h]
  have hword : d.ending.isWord "static" = false := by
    rcases hending with h | h <;> exact Token.isWord_of_isPunctuation h _
  have hrun := run_nested hscopes d.isStatic d.nested
    (by rcases hending with h | h <;> simp [endsDeclaration, h])
    (readDeclaration_of_ending hbraces.1 exportPrefix d.declared) before
  rw [Scan.pass_other hbraces.1 hbraces.2 (.inl hword)] at hrun
  simpa [Declaration.tokens] using hrun

theorem run_plain {before run : List Token} (h : PlainRun before run) (exportPrefix : String)
    (scopes : List Bool) :
    (Scan.outside scopes before).run exportPrefix run =
      .ok (Scan.outside scopes (before ++ run), []) := by
  induction h with
  | nil => rw [List.append_nil, Scan.run_nil]
  | @token before ts t hopening hclosing hstatic _ ih =>
    have hrun := Scan.run_pass_cons rfl (Scan.pass_other hopening hclosing (.inl hstatic) before) ih
    simpa using hrun
  | @block before inner ts first last hfirst hlinkage hinner hlast _ ih =>
    have hpass := Scan.pass_opening hfirst scopes before
    rw [Bool.eq_false_iff.mpr (mt opensLinkage_iff.mp hlinkage)] at hpass
    have hbody := run_body hinner exportPrefix (show (false :: scopes).all id = false by simp)
      (before ++ [first])
    have hclosing := Scan.pass_closing hlast (false :: scopes) (before ++ [first] ++ inner)
    have hbefore : before ++ [first] ++ inner ++ [last] = before ++ first :: (inner ++ [last]) := by
      simp
    rw [hbefore] at hclosing
    have hrun := Scan.run_pass_cons rfl hpass
      (Scan.run_trans hbody (Scan.run_pass_cons rfl hclosing ih))
    simpa using hrun

theorem run_linkage {keyword literal opening : Token} (hkeyword : keyword.isWord "extern")
    (hliteral : IsStringLiteral literal) (hopening : opening.isPunctuation '{')
    (exportPrefix : String) (scopes : List Bool) (before : List Token) :
    (Scan.outside scopes before).run exportPrefix [keyword, literal, opening] =
      .ok (Scan.outside (true :: scopes) (before ++ [keyword, literal, opening]), []) := by
  have hkeywordChar := Token.isPunctuation_of_isWord hkeyword
  have hliteralChar := Token.isPunctuation_of_kind (t := literal) (by simp [hliteral.1])
  have hfirst : (Scan.outside scopes before).pass keyword =
      Scan.outside scopes (before ++ [keyword]) :=
    Scan.pass_other (hkeywordChar '{') (hkeywordChar '}')
      (.inl (Token.isWord_of_ne hkeyword (by decide))) before
  have hsecond : (Scan.outside scopes (before ++ [keyword])).pass literal =
      Scan.outside scopes (before ++ [keyword] ++ [literal]) :=
    Scan.pass_other (hliteralChar '{') (hliteralChar '}')
      (.inl (Token.isWord_of_kind (by simp [hliteral.1]) _)) (before ++ [keyword])
  have hthird := Scan.pass_opening hopening scopes (before ++ [keyword] ++ [literal])
  have hlinkage : (Scan.outside scopes (before ++ [keyword] ++ [literal])).opensLinkage :=
    opensLinkage_iff.mpr ⟨before, keyword, literal, by simp, hkeyword, hliteral⟩
  rw [hlinkage] at hthird
  have hrun := Scan.run_pass_cons rfl hfirst (Scan.run_pass_cons rfl hsecond
    (Scan.run_pass_cons rfl hthird (Scan.run_nil exportPrefix _)))
  simpa using hrun

/-- A sequence of items gives its signatures and leads back to where it started. -/
theorem run_items {exportPrefix : String} {before tokens : List Token}
    {signatures : List Signature} (h : Items exportPrefix before tokens signatures)
    {scopes : List Bool} (hscopes : scopes.all id) :
    (Scan.outside scopes before).run exportPrefix tokens =
      .ok (Scan.outside scopes (before ++ tokens), signatures) := by
  induction h generalizing scopes with
  | nil => rw [List.append_nil, Scan.run_nil]
  | exported d hreturn hsymbol hname _ ih =>
    have hread := d.readDeclaration_exported hreturn hsymbol hname
    simpa using Scan.run_trans (run_definition hscopes d hread _) (ih hscopes)
  | unexported d hsymbol _ ih =>
    have hread := d.readDeclaration_unexported hsymbol
    simpa using Scan.run_trans (run_definition hscopes d hread _) (ih hscopes)
  | declaration d hending _ ih =>
    simpa using Scan.run_trans (run_ending hscopes d (.inl hending) _) (ih hscopes)
  | initialized d hending hrun _ ih =>
    have hplain := run_plain hrun exportPrefix scopes
    simpa using Scan.run_trans
      (Scan.run_trans (run_ending hscopes d (.inr hending) _) hplain) (ih hscopes)
  | plain hrun _ ih =>
    simpa using Scan.run_trans (run_plain hrun exportPrefix scopes) (ih hscopes)
  | @linkage before inner rest keyword literal opening closing first later hkeyword hliteral
      hopening _ hclosing _ ihinner ih =>
    have hmark := run_linkage hkeyword hliteral hopening exportPrefix scopes before
    have hinner := ihinner (show (true :: scopes).all id by simpa using hscopes)
    have hpass := Scan.pass_closing hclosing (true :: scopes)
      (before ++ [keyword, literal, opening] ++ inner)
    have hbefore : before ++ [keyword, literal, opening] ++ inner ++ [closing] =
        before ++ keyword :: literal :: opening :: (inner ++ [closing]) := by
      simp
    rw [hbefore] at hpass
    have hrun := Scan.run_trans hmark
      (Scan.run_trans hinner (Scan.run_pass_cons rfl hpass (ih hscopes)))
    simpa using hrun

/-- The functions of a well-formed source are its exported definitions, in source order. -/
theorem extractSignatures_of_items {exportPrefix source : String} {tokens : List Token}
    {signatures : List Signature} (htokens : tokenize source = .ok tokens)
    (hitems : Items exportPrefix [] tokens signatures) :
    extractSignatures exportPrefix source = .ok signatures := by
  have hrun := run_items hitems (show ([] : List Bool).all id from rfl)
  rw [extractSignatures, htokens]
  exact extractFrom_of_run hrun rfl

def linkageSample : String :=
  "extern \"C\" \x7b static int *A_f(int n) \x7b static A_g( \x7d \x7d static h() \x7b \x7d " ++
    "static A_x = \x7b 1 \x7d;"

/-- Exported, with a body that begins another definition. -/
def nestedDefinition : Definition where
  keyword := ⟨.identifier, "static", 1, true⟩
  returnType := [⟨.identifier, "int", 1, true⟩, ⟨.punctuation, "*", 1, true⟩]
  symbol := ⟨.identifier, "A_f", 1, false⟩
  parameters :=
    { opening := ⟨.punctuation, "(", 1, false⟩
      inner := [⟨.identifier, "int", 1, false⟩, ⟨.identifier, "n", 1, true⟩]
      closing := ⟨.punctuation, ")", 1, false⟩
      isOpening := by decide
      balanced := .of_forall (by decide)
      isClosing := by decide }
  opening := ⟨.punctuation, "\x7b", 1, true⟩
  body := [⟨.identifier, "static", 1, true⟩, ⟨.identifier, "A_g", 1, true⟩,
    ⟨.punctuation, "(", 1, false⟩]
  closing := ⟨.punctuation, "\x7d", 1, true⟩
  isStatic := by decide
  isReturnType := by decide
  isIdentifier := by decide
  isOpening := by decide
  balanced := .of_forall (by decide)
  isClosing := by decide

/-- Without the export prefix and without a return type. -/
def internalDefinition : Definition where
  keyword := ⟨.identifier, "static", 1, true⟩
  returnType := []
  symbol := ⟨.identifier, "h", 1, true⟩
  parameters :=
    { opening := ⟨.punctuation, "(", 1, false⟩
      inner := []
      closing := ⟨.punctuation, ")", 1, false⟩
      isOpening := by decide
      balanced := .nil
      isClosing := by decide }
  opening := ⟨.punctuation, "\x7b", 1, true⟩
  body := []
  closing := ⟨.punctuation, "\x7d", 1, true⟩
  isStatic := by decide
  isReturnType := by simp
  isIdentifier := by decide
  isOpening := by decide
  balanced := .nil
  isClosing := by decide

/-- A variable with the export prefix. -/
def variableDeclaration : Declaration where
  keyword := ⟨.identifier, "static", 1, true⟩
  declared := [⟨.identifier, "A_x", 1, true⟩]
  ending := ⟨.punctuation, "=", 1, true⟩
  isStatic := by decide
  nested := .of_forall (by decide)

theorem items_linkageSample : ∃ tokens, tokenize linkageSample = .ok tokens ∧
    Items "A" [] tokens [⟨"int *", "f", "(int n)"⟩] := by
  have hexported : Items "A" ([] ++ [⟨.identifier, "extern", 1, false⟩,
      ⟨.literal, "\"C\"", 1, true⟩, ⟨.punctuation, "\x7b", 1, true⟩])
      (nestedDefinition.tokens ++ []) [⟨"int *", "f", "(int n)"⟩] :=
    .exported nestedDefinition (by decide) (by decide) (by decide) .nil
  have hvalue (before : List Token) : PlainRun (before ++ variableDeclaration.tokens)
      (⟨.punctuation, "\x7b", 1, true⟩ :: ([⟨.number, "1", 1, true⟩] ++
        ⟨.punctuation, "\x7d", 1, true⟩ :: [⟨.punctuation, ";", 1, false⟩])) := by
    have hlast : (before ++ variableDeclaration.tokens).getLast? =
        some variableDeclaration.ending := by
      simp [Declaration.tokens, List.getLast?_cons]
    exact .block (by decide) (not_endsWithLinkage hlast (by decide)) (.of_forall (by decide))
      (by decide) (.token (by decide) (by decide) (by decide) .nil)
  refine ⟨_, ?_, .linkage (by decide) ⟨by decide, by decide⟩ (by decide) hexported
    (by decide : (⟨.punctuation, "\x7d", 1, true⟩ : Token).isPunctuation '}')
    (.unexported internalDefinition (by decide)
      (.initialized variableDeclaration (by decide) (hvalue _) .nil))⟩
  decide +kernel

theorem extractSignatures_linkageSample :
    (∃ tokens, tokenize linkageSample = .ok tokens ∧
      Items "A" [] tokens [⟨"int *", "f", "(int n)"⟩]) ∧
    extractSignatures "A" linkageSample = .ok [⟨"int *", "f", "(int n)"⟩] := by
  obtain ⟨tokens, htokens, hitems⟩ := items_linkageSample
  exact ⟨⟨tokens, htokens, hitems⟩, extractSignatures_of_items htokens hitems⟩

end ExportTable.Extraction
