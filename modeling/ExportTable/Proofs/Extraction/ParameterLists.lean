import ExportTable.Proofs.Extraction.Declarations
import ExportTable.Proofs.Extraction.Exports

/-!
# Parameter lists are closed

The scanner counts open parentheses from `static` on, and a closing one without a partner counts for
nothing. The search for the end of a parameter list counts again, from the first parenthesis, and
relies on having met an opening one for each closing one. It can do so: before the first parenthesis
the scanner's count is zero, after it the two counts are the same until the list is closed, and a
declaration ends only where the scanner's count is zero again. So every parameter list that is looked
for is found, and no source is refused for one that stays open.
-/

namespace ExportTable.Extraction

open CSource

/-! ## The search -/

/-- Opening less closing parentheses. Nothing keeps this count from going below zero. -/
def balance (tokens : List Token) : Int :=
  tokens.countP (·.isPunctuation '(') - tokens.countP (·.isPunctuation ')')

theorem balance_nil : balance [] = 0 := rfl

/-- While a parenthesis is open, the count that stops at zero goes with the one that does not. -/
theorem balance_cons {depth : Nat} (hdepth : 0 < depth) (t : Token) (ts : List Token) :
    depth + balance (t :: ts) = openAfter depth t + balance ts := by
  cases hopening : t.isPunctuation '(' with
  | true =>
    have hclosing := Token.isPunctuation_of_ne hopening (show '(' ≠ ')' by decide)
    rw [openAfter_opening hopening]
    simp only [balance, List.countP_cons, hopening, hclosing, if_true, Bool.false_eq_true, if_false]
    omega
  | false =>
    cases hclosing : t.isPunctuation ')' with
    | true =>
      rw [openAfter_closing hclosing]
      simp only [balance, List.countP_cons, hopening, hclosing, if_true, Bool.false_eq_true,
        if_false]
      omega
    | false =>
      rw [openAfter_other hopening hclosing]
      simp [balance, hopening, hclosing]

/-- The search stops where the count first comes to zero. -/
theorem balance_of_closeParentheses {depth : Nat} (hdepth : 0 < depth)
    {tokens inner rest : List Token} (h : closeParentheses depth tokens = some (inner, rest)) :
    depth + balance inner = 0 ∧
      ∀ counted, counted <+: inner → counted ≠ inner → 0 < depth + balance counted := by
  induction tokens generalizing depth inner with
  | nil => cases h
  | cons t ts ih =>
    have hstart : 0 < depth + balance [] := by
      rw [balance_nil]
      omega
    rcases closeParentheses_cons_eq_some h with ⟨⟨ht, hlast⟩, rfl, _⟩ | ⟨hmore, front, rfl, hclose⟩
    · have hone : depth = 1 := by omega
      refine ⟨?_, fun counted hcounted hne ↦ ?_⟩
      · rw [balance_cons hdepth, openAfter_closing ht, balance_nil, hone]
        rfl
      · rcases List.prefix_cons_iff.mp hcounted with rfl | ⟨us, rfl, hus⟩
        · exact hstart
        · exact absurd (by rw [List.prefix_nil.mp hus]) hne
    · obtain ⟨htotal, hinside⟩ := ih (openAfter_pos hdepth hmore) hclose
      refine ⟨by rw [balance_cons hdepth, htotal], fun counted hcounted hne ↦ ?_⟩
      rcases List.prefix_cons_iff.mp hcounted with rfl | ⟨us, rfl, hus⟩
      · exact hstart
      · rw [balance_cons hdepth]
        exact hinside us hus fun heq ↦ hne (by rw [heq])

/-- Tokens that close as many open parentheses, the last of them at their end. -/
inductive Closes : Nat → List Token → Prop
  | nil : Closes 0 []
  | cons {depth : Nat} {inner rest : List Token} {closing : Token}
      (hinner : Balanced '(' ')' inner) (hclosing : closing.isPunctuation ')')
      (hrest : Closes depth rest) : Closes (depth + 1) (inner ++ closing :: rest)

namespace Closes

variable {depth : Nat} {t : Token} {ts : List Token}

theorem token (h : Closes (depth + 1) ts) (hopening : t.isPunctuation '(' = false)
    (hclosing : t.isPunctuation ')' = false) : Closes (depth + 1) (t :: ts) := by
  cases h with
  | @cons _ inner _ _ hinner hlast hrest =>
    have hlonger : Balanced '(' ')' (t :: inner) := .token hopening hclosing trivial hinner
    exact .cons hlonger hlast hrest

/-- The first of the closing parentheses belongs to the new one. -/
theorem opening (h : Closes (depth + 2) ts) (ht : t.isPunctuation '(') :
    Closes (depth + 1) (t :: ts) := by
  cases h with
  | cons hinner hclosing hrest =>
    cases hrest with
    | cons hnext hlast hrest =>
      have hclosed := Closes.cons (.group ht hinner hclosing hnext) hlast hrest
      simpa using hclosed

end Closes

theorem closes_of_closeParentheses {depth : Nat} {tokens inner rest : List Token}
    (h : closeParentheses (depth + 1) tokens = some (inner, rest)) : Closes (depth + 1) inner := by
  induction tokens generalizing depth inner with
  | nil => cases h
  | cons t ts ih =>
    rcases closeParentheses_cons_eq_some h with ⟨⟨ht, hlast⟩, rfl, _⟩ | ⟨hmore, front, rfl, hclose⟩
    · obtain rfl : depth = 0 := by omega
      exact .cons .nil ht .nil
    · cases hopening : t.isPunctuation '(' with
      | true =>
        rw [openAfter_opening hopening] at hclose
        exact (ih hclose).opening hopening
      | false =>
        cases hclosing : t.isPunctuation ')' with
        | true =>
          rw [openAfter_closing hclosing] at hclose
          have hdepth : 0 < depth := Nat.pos_of_ne_zero fun hzero ↦ hmore ⟨hclosing, by omega⟩
          obtain ⟨k, rfl⟩ : ∃ k, depth = k + 1 := Nat.exists_eq_add_one.mpr hdepth
          exact .cons .nil hclosing (ih hclose)
        | false =>
          rw [openAfter_other hopening hclosing] at hclose
          exact (ih hclose).token hopening hclosing

/-- A parameter list is one parenthesis up to its partner, and the count of the search comes to zero
there and not before. -/
structure IsParameterList (parameters : List Token) : Prop where
  ne_nil : parameters ≠ []
  balanced : Balanced '(' ')' parameters
  balance_nonneg : ∀ counted, counted <+: parameters → 0 ≤ balance counted
  balance_eq_zero_iff : ∀ counted, counted <+: parameters →
    (balance counted = 0 ↔ counted = [] ∨ counted = parameters)

theorem isParameterList_of_closeParentheses {opening : Token} {tokens inner rest : List Token}
    (hopening : opening.isPunctuation '(')
    (h : closeParentheses 1 tokens = some (inner, rest)) : IsParameterList (opening :: inner) := by
  obtain ⟨htotal, hinside⟩ := balance_of_closeParentheses Nat.one_pos h
  have hfirst (us : List Token) : balance (opening :: us) = 1 + balance us := by
    have hcount := balance_cons Nat.one_pos opening us
    rw [openAfter_opening hopening] at hcount
    omega
  -- Between its ends the list is open.
  have hcount (counted : List Token) (hcounted : counted <+: opening :: inner) :
      counted = [] ∨ counted = opening :: inner ∧ balance counted = 0 ∨ 0 < balance counted := by
    rcases List.prefix_cons_iff.mp hcounted with rfl | ⟨us, rfl, hus⟩
    · exact .inl rfl
    · rw [hfirst]
      by_cases hend : us = inner
      · rw [hend]
        exact .inr (.inl ⟨rfl, htotal⟩)
      · exact .inr (.inr (hinside us hus hend))
  refine ⟨List.cons_ne_nil _ _, ?_, fun counted hcounted ↦ ?_, fun counted hcounted ↦ ?_⟩
  · have hcloses := closes_of_closeParentheses h
    cases hcloses with
    | cons hinner hclosing hrest =>
      cases hrest
      exact .group hopening hinner hclosing .nil
  · rcases hcount counted hcounted with rfl | ⟨_, hzero⟩ | hpos
    · exact Int.le_refl 0
    · omega
    · omega
  · rcases hcount counted hcounted with rfl | ⟨rfl, hzero⟩ | hpos
    · simp [balance_nil]
    · simp [hzero]
    · refine iff_of_false (by omega) ?_
      rintro (rfl | rfl)
      · exact absurd hpos (by decide)
      · rw [hfirst] at hpos
        omega

/-! ## Candidates -/

/-- The declaration passes all that is checked before the search: it has a body, a return type and
an exported name that is not empty, and a parenthesis follows the name. -/
structure IsCandidate (exportPrefix name : String) (declaration : List Token)
    (ending : Option Token) (d : Declarator) : Prop where
  declarator : declarator? declaration = some d
  isExported : d.name.text = exportPrefix ++ "_" ++ name
  hasBody : ending.any (·.isPunctuation '{')
  name_ne_empty : name ≠ ""
  returnType_ne_nil : d.returnType ≠ []
  opens : d.rest.head?.any (·.isPunctuation '(')

variable {exportPrefix name : String} {declaration rest : List Token} {ending : Option Token}
  {d : Declarator}

theorem readDefinition_eq_unbalanced_iff {line : Nat} {other : String} :
    readDefinition exportPrefix name d = .error (.unbalancedParameters line other) ↔
      name ≠ "" ∧ d.returnType ≠ [] ∧ d.rest.head?.any (·.isPunctuation '(') ∧
        closeParentheses 0 d.rest = none ∧ d.name.line = line ∧ name = other := by
  unfold readDefinition
  by_cases hname : name = ""
  · simp [hname]
  by_cases hreturn : d.returnType = []
  · simp [hname, hreturn]
  by_cases hhead : d.rest.head?.any (·.isPunctuation '(')
  · rw [if_neg hname, if_neg hreturn, if_neg (by simp [hhead])]
    split
    next hclose => simp [hname, hreturn, hhead, hclose]
    next hclose => simp [hclose]
    next hclose => simp [hclose]
  · simp [hname, hreturn, hhead]

theorem readDeclaration_eq_unbalanced_iff {line : Nat} :
    readDeclaration exportPrefix declaration ending = .error (.unbalancedParameters line name) ↔
      ∃ d, IsCandidate exportPrefix name declaration ending d ∧
        closeParentheses 0 d.rest = none ∧ d.name.line = line := by
  constructor
  · intro h
    unfold readDeclaration at h
    split at h
    · cases h
    next d hd =>
    split at h
    · cases h
    next rest hstart =>
    dsimp only at h
    split at h
    next t =>
      split at h
      next hbody =>
        rw [map_eq_error_iff, readDefinition_eq_unbalanced_iff] at h
        obtain ⟨hne, hreturn, hopens, hclose, hline, rfl⟩ := h
        have hexported : d.name.text = exportPrefix ++ "_" ++ String.ofList rest := by
          rw [← String.toList_inj, ← List.isPrefixOf?_eq_some_iff_append_eq.mp hstart]
          simp
        exact ⟨d, ⟨hd, hexported, hbody, hne, hreturn, hopens⟩, hclose, hline⟩
      next => cases h
    next => split at h <;> cases h
  · rintro ⟨d, hd, hclose, hline⟩
    obtain ⟨t, rfl, hbody⟩ := (Option.any_eq_true _ _).mp hd.hasBody
    rw [readDeclaration_of_exported hd.declarator hd.isExported hbody, map_eq_error_iff,
      readDefinition_eq_unbalanced_iff]
    exact ⟨hd.name_ne_empty, hd.returnType_ne_nil, hd.opens, hclose, hline, rfl⟩

/-- The parameter list of a candidate that the scanner cuts off is found. -/
theorem IsCandidate.exists_parameters {after : List Token}
    (hcut : cutDeclaration 0 after = (declaration, rest))
    (h : IsCandidate exportPrefix name declaration rest.head? d) :
    ∃ parameters extra, closeParentheses 0 d.rest = some (parameters, extra) ∧
      declaration = d.returnType ++ d.name :: (parameters ++ extra) ∧
      IsParameterList parameters := by
  obtain ⟨_, _, hnext⟩ := of_cutDeclaration hcut
  obtain ⟨hsplit, hidentifier, hfront⟩ := of_declarator?_eq_some h.declarator h.opens
  obtain ⟨ending, hending, _⟩ := (Option.any_eq_true _ _).mp h.hasBody
  obtain ⟨opening, hhead, hopening⟩ := (Option.any_eq_true _ _).mp h.opens
  obtain ⟨inside, hinside⟩ := List.head?_eq_some_iff.mp hhead
  have hname (c : Char) : d.name.isPunctuation c = false :=
    Token.isPunctuation_of_kind (by simp [hidentifier]) c
  have hcount : openParentheses 1 inside = 0 := by
    rw [← (hnext ending hending).2, hsplit, openParentheses_append, openParentheses_zero hfront,
      openParentheses_cons, openAfter_other (hname _) (hname _), hinside, openParentheses_cons,
      openAfter_opening hopening]
  obtain ⟨inner, extra, hclose⟩ := closeParentheses_of_openParentheses Nat.one_pos hcount []
  rw [List.append_nil, List.append_nil] at hclose
  have hparameters : closeParentheses 0 d.rest = some (opening :: inner, extra) := by
    rw [hinside, closeParentheses, if_pos hopening, hclose]
    rfl
  refine ⟨opening :: inner, extra, hparameters, ?_,
    isParameterList_of_closeParentheses hopening hclose⟩
  rwa [← eq_append_of_closeParentheses hparameters]

/-! ## Whole sources -/

/-- Outside declarations a token changes the scopes at most, unless it begins a declaration. -/
theorem exists_pass_eq_outside {scopes : List Bool} {t : Token}
    (h : ¬ (t.isWord "static" ∧ scopes.all id)) (before : List Token) :
    ∃ others, (Scan.outside scopes before).pass t = .outside others (before ++ [t]) := by
  cases hopening : t.isPunctuation '{' with
  | true => exact ⟨_, Scan.pass_opening hopening scopes before⟩
  | false =>
    cases hclosing : t.isPunctuation '}' with
    | true => exact ⟨_, Scan.pass_closing hclosing scopes before⟩
    | false =>
      have hother : t.isWord "static" = false ∨ scopes.all id = false := by
        rwa [not_and_or, Bool.not_eq_true, Bool.not_eq_true] at h
      exact ⟨_, Scan.pass_other hopening hclosing hother before⟩

theorem extractFrom_ne_unbalanced (scopes : List Bool) (before tokens : List Token) (line : Nat) :
    extractFrom exportPrefix (.outside scopes before) tokens ≠
      .error (.unbalancedParameters line name) := by
  induction hlength : tokens.length using Nat.strong_induction_on
    generalizing scopes before tokens with
  | h n ih =>
    cases tokens with
    | nil =>
      rw [extractFrom_nil rfl]
      intro h
      cases h
    | cons t ts =>
      rw [List.length_cons] at hlength
      by_cases hstatic : t.isWord "static" ∧ scopes.all id
      · cases hcut : cutDeclaration 0 ts with
        | mk declaration rest =>
          have hshorter : rest.length < n := by
            rw [(of_cutDeclaration hcut).1, List.length_append] at hlength
            omega
          rw [extractFrom_static hstatic.2 before hstatic.1 hcut]
          intro herror
          rcases bind_eq_error_iff.mp herror with hread | ⟨found, _, hback⟩
          · obtain ⟨d, hd, hclose, _⟩ := readDeclaration_eq_unbalanced_iff.mp hread
            obtain ⟨parameters, extra, hsome, _⟩ := hd.exists_parameters hcut
            rw [hclose] at hsome
            cases hsome
          · rcases bind_eq_error_iff.mp hback with hlater | ⟨later, _, hpure⟩
            · exact ih _ hshorter _ _ _ rfl hlater
            · cases hpure
      · obtain ⟨others, hpass⟩ := exists_pass_eq_outside hstatic before
        rw [extractFrom_pass rfl, hpass]
        exact ih ts.length (by omega) others (before ++ [t]) ts rfl

/-- At every `static` of the top level the scanner reads the declaration that is cut off there. If the
declaration passes the checks before it, the search for the end of the parameter list succeeds within
the declaration, and its count never goes below zero. So no source is refused for a parameter list
that stays open. -/
theorem parameterLists_close (exportPrefix : String) :
    (∀ (scopes : List Bool) (before after declaration rest : List Token) (keyword : Token),
      keyword.isWord "static" → scopes.all id → cutDeclaration 0 after = (declaration, rest) →
      (extractFrom exportPrefix (.outside scopes before) (keyword :: after) = do
        let found ← readDeclaration exportPrefix declaration rest.head?
        let later ←
          extractFrom exportPrefix (.outside scopes (before ++ keyword :: declaration)) rest
        return found.toList ++ later) ∧
      ∀ name d, IsCandidate exportPrefix name declaration rest.head? d →
        ∃ parameters extra, closeParentheses 0 d.rest = some (parameters, extra) ∧
          declaration = d.returnType ++ d.name :: (parameters ++ extra) ∧
          IsParameterList parameters) ∧
    ∀ source line name,
      extractSignatures exportPrefix source ≠ .error (.unbalancedParameters line name) := by
  refine ⟨fun scopes before after declaration rest keyword hkeyword hscopes hcut ↦ ⟨?_, ?_⟩, ?_⟩
  · exact extractFrom_static hscopes before hkeyword hcut
  · intro name d hd
    exact hd.exists_parameters hcut
  · intro source line name
    rw [extractSignatures]
    cases tokenize source with
    | error e =>
      intro h
      cases h
    | ok tokens => exact extractFrom_ne_unbalanced [] [] tokens line

def strayKeyword : Token := ⟨.identifier, "static", 1, false⟩

/-- Parentheses without partners stand before the name of `static ) int ) A_f((a) b) \x7b`. -/
def strayDeclarator : Declarator where
  returnType := [⟨.punctuation, ")", 1, true⟩, ⟨.identifier, "int", 1, true⟩,
    ⟨.punctuation, ")", 1, true⟩]
  name := ⟨.identifier, "A_f", 1, true⟩
  rest := [⟨.punctuation, "(", 1, false⟩, ⟨.punctuation, "(", 1, false⟩, ⟨.identifier, "a", 1, false⟩,
    ⟨.punctuation, ")", 1, false⟩, ⟨.identifier, "b", 1, true⟩, ⟨.punctuation, ")", 1, false⟩]

def strayDeclaration : List Token :=
  strayDeclarator.returnType ++ strayDeclarator.name :: strayDeclarator.rest

def strayBody : List Token := [⟨.punctuation, "\x7b", 1, true⟩, ⟨.punctuation, "\x7d", 1, true⟩]

theorem isCandidate_strayDeclaration :
    IsCandidate "A" "f" strayDeclaration strayBody.head? strayDeclarator where
  declarator := rfl
  isExported := by decide
  hasBody := by decide
  name_ne_empty := by decide
  returnType_ne_nil := by decide
  opens := by decide

theorem parameterLists_close_strayDeclaration :
    strayKeyword.isWord "static" ∧ ([] : List Bool).all id ∧
      cutDeclaration 0 (strayDeclaration ++ strayBody) = (strayDeclaration, strayBody) ∧
      IsCandidate "A" "f" strayDeclaration strayBody.head? strayDeclarator ∧
      (extractFrom "A" (.outside [] []) (strayKeyword :: (strayDeclaration ++ strayBody)) = do
        let found ← readDeclaration "A" strayDeclaration strayBody.head?
        let later ← extractFrom "A" (.outside [] ([] ++ strayKeyword :: strayDeclaration)) strayBody
        return found.toList ++ later) ∧
      ∃ parameters extra, closeParentheses 0 strayDeclarator.rest = some (parameters, extra) ∧
        strayDeclaration =
          strayDeclarator.returnType ++ strayDeclarator.name :: (parameters ++ extra) ∧
        IsParameterList parameters := by
  have hkeyword : strayKeyword.isWord "static" := by decide
  have hscopes : ([] : List Bool).all id := rfl
  have hcut : cutDeclaration 0 (strayDeclaration ++ strayBody) = (strayDeclaration, strayBody) := by
    decide
  obtain ⟨hread, hparameters⟩ :=
    (parameterLists_close "A").1 [] [] _ _ _ _ hkeyword hscopes hcut
  exact ⟨hkeyword, hscopes, hcut, isCandidate_strayDeclaration, hread,
    hparameters "f" _ isCandidate_strayDeclaration⟩

end ExportTable.Extraction
