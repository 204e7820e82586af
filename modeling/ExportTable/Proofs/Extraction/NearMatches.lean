import ExportTable.Proofs.Extraction.Declarators
import ExportTable.Proofs.Extraction.Nesting

/-!
# Names after other parentheses

A near-match is a top-level `static` declaration with a body in which an exported name stands
outside parentheses and right before one. The scanner looks for the name of a declaration before
its first parenthesis only. A near-match whose name stands there contributes its signature; one
that has a parenthesis further to the front, as after an attribute, contributes nothing, and
without an error.
-/

namespace ExportTable.Extraction

open CSource

/-- An exported name outside parentheses and right before one, in a declaration with a body. -/
structure NearMatch (exportPrefix : String) where
  before : List Token
  keyword : Token
  front : List Token
  symbol : Token
  name : String
  parenthesis : Token
  back : List Token
  opening : Token
  after : List Token
  isOutside : (Scan.initial.after before).declaration = none
  isTopLevel : (Scan.initial.after before).atTopLevel
  isStatic : keyword.isWord "static"
  isIdentifier : symbol.kind = .identifier
  isExported : symbol.text = exportPrefix ++ "_" ++ name
  isParenthesis : parenthesis.isPunctuation '('
  frontCloses : openParentheses 0 front = 0
  isOpening : opening.isPunctuation '{'
  staysOpen : StaysOpen 0 (front ++ symbol :: parenthesis :: back)
  closes : openParentheses 0 (front ++ symbol :: parenthesis :: back) = 0

namespace NearMatch

variable {exportPrefix : String}

/-- What stands between `static` and the body. -/
def declared (m : NearMatch exportPrefix) : List Token :=
  m.front ++ m.symbol :: m.parenthesis :: m.back

/-- The declaration with the brace that ends it. -/
def declaration (m : NearMatch exportPrefix) : List Token :=
  m.keyword :: (m.declared ++ [m.opening])

def tokens (m : NearMatch exportPrefix) : List Token := m.before ++ m.declaration ++ m.after

/-- The signature that bears the name, unless a parenthesis stands before the name. -/
def contributed (m : NearMatch exportPrefix) : List Signature :=
  if m.front.any (·.isPunctuation '(') then []
  else [⟨render m.front, m.name, render (m.parenthesis :: m.back)⟩]

theorem outside_before (m : NearMatch exportPrefix) :
    Scan.initial.after m.before =
      Scan.outside (Scan.initial.after m.before).scopes m.before := by
  have hread := Scan.read_after .initial m.before
  have houtside := m.isOutside
  generalize Scan.initial.after m.before = s at hread houtside ⊢
  obtain ⟨scopes, read, declaration⟩ := s
  simp only [Scan.initial, List.append_nil] at hread houtside
  subst hread houtside
  rfl

end NearMatch

/-- If something follows the first group of parentheses, then nothing is found without an error. -/
theorem eq_none_of_readDeclaration {exportPrefix : String} {front inside rest : List Token}
    {opening ending : Token} {found : Option Signature}
    (hfront : ∀ t ∈ front, t.isPunctuation '(' = false) (hopening : opening.isPunctuation '(')
    (hinside : openParentheses 1 inside = 0) (hrest : rest ≠ [])
    (hending : ending.isPunctuation '{')
    (hread : readDeclaration exportPrefix (front ++ opening :: (inside ++ rest)) (some ending) =
      .ok found) : found = none := by
  have hdeclarator : declarator? (front ++ opening :: (inside ++ rest)) = _ :=
    declarator?_append hfront hopening
  cases hd : declarator? (front ++ opening :: (inside ++ rest)) with
  | none =>
    rw [readDeclaration, hd] at hread
    exact (Except.ok.inj hread).symm
  | some d =>
    have hparameters : d.rest = opening :: (inside ++ rest) := by
      rw [hd] at hdeclarator
      obtain ⟨name, _, heq⟩ := Option.bind_eq_some_iff.mp hdeclarator.symm
      split at heq
      · cases heq
        rfl
      · cases heq
    by_cases hstart : (exportPrefix ++ "_").toList <+: d.name.text.toList
    · obtain ⟨name, hname⟩ := hstart
      have htext : d.name.text = exportPrefix ++ "_" ++ String.ofList name := by
        rw [← String.toList_inj, ← hname]
        simp
      rw [readDeclaration_of_exported hd htext hending, map_eq_ok_iff] at hread
      obtain ⟨f, hf, rfl⟩ := hread
      have hclose := (readDefinition_eq_ok_iff.mp hf).2.2.2.1
      obtain ⟨inner, outer, hgroup⟩ := closeParentheses_of_openParentheses
        (show 0 < 1 from Nat.one_pos) hinside rest
      rw [hparameters, closeParentheses, if_pos hopening, hgroup] at hclose
      have hnil : outer ++ rest = [] := by
        have hpair := Option.some.inj hclose
        exact (Prod.mk.inj hpair).2
      exact absurd (List.append_eq_nil_iff.mp hnil).2 hrest
    · rw [readDeclaration_of_unexported hd hstart] at hread
      exact (Except.ok.inj hread).symm

namespace NearMatch

variable {exportPrefix : String}

theorem readDeclaration_declared (m : NearMatch exportPrefix) {found : Option Signature}
    (h : readDeclaration exportPrefix m.declared (some m.opening) = .ok found) :
    found.toList = m.contributed := by
  cases hany : m.front.any (·.isPunctuation '(') with
  | true =>
    obtain ⟨front, opening, inside, hfront, hnone, hopening⟩ := exists_first_parenthesis hany
    have hinside : openParentheses 1 inside = 0 := by
      have hcloses := m.frontCloses
      rw [hfront, openParentheses_append, openParentheses_zero hnone] at hcloses
      rwa [openParentheses_cons, openAfter_opening hopening] at hcloses
    rw [declared, hfront, List.append_assoc, List.cons_append] at h
    have hfound := eq_none_of_readDeclaration hnone hopening hinside (by simp) m.isOpening h
    simp [contributed, hany, hfound]
  | false =>
    have hfront : ∀ t ∈ m.front, t.isPunctuation '(' = false := by simpa using hany
    have hdeclarator : declarator? m.declared = some ⟨m.front, m.symbol, m.parenthesis :: m.back⟩ :=
      declarator?_of_first hfront m.isIdentifier m.isParenthesis
    rw [readDeclaration_of_exported hdeclarator m.isExported m.isOpening, map_eq_ok_iff] at h
    obtain ⟨f, hf, rfl⟩ := h
    obtain ⟨_, _, _, _, rfl⟩ := readDefinition_eq_ok_iff.mp hf
    simp [contributed, hany]

/-- Reading a near-match, from outside declarations to inside its body. -/
theorem run_declaration_eq_ok (m : NearMatch exportPrefix) {last : Scan} {found : List Signature}
    (h : (Scan.initial.after m.before).run exportPrefix m.declaration = .ok (last, found)) :
    last.declaration = none ∧ found = m.contributed := by
  have hstays : StaysOpen 0 m.declared := m.staysOpen
  have hcount : openParentheses 0 m.declared = 0 := m.closes
  have hending : endsDeclaration m.opening := by simp [endsDeclaration, m.isOpening]
  rw [m.outside_before, declaration, run_declaration exportPrefix m.isTopLevel m.before m.isStatic
    hstays hcount hending, map_eq_ok_iff] at h
  obtain ⟨signature, hread, heq⟩ := h
  cases heq
  rw [Scan.pass_opening m.isOpening]
  exact ⟨rfl, m.readDeclaration_declared hread⟩

end NearMatch

/-- Where extraction succeeds, a near-match contributes its signature, between those of the tokens
before it and those of the tokens after it, exactly if no parenthesis stands before its name. -/
theorem extractSignatures_of_nearMatch {exportPrefix source : String}
    {signatures : List Signature} (m : NearMatch exportPrefix)
    (htokens : tokenize source = .ok m.tokens)
    (hextract : extractSignatures exportPrefix source = .ok signatures) :
    ∃ earlier later, extractTokens exportPrefix m.before = .ok earlier ∧
      extractTokens exportPrefix (m.before ++ m.declaration) = .ok (earlier ++ m.contributed) ∧
      signatures = earlier ++ m.contributed ++ later := by
  rw [extractSignatures, htokens] at hextract
  obtain ⟨last, found, later, hrun, _, rfl⟩ := extractFrom_append_eq_ok_iff.mp hextract
  have hboth := hrun
  rw [Scan.run_append, bind_eq_ok_iff] at hrun
  obtain ⟨⟨middle, earlier⟩, hbefore, hrun⟩ := hrun
  obtain ⟨⟨inside, contributed⟩, hdeclaration, hrun⟩ := bind_eq_ok_iff.mp hrun
  cases hrun
  have hmiddle := Scan.eq_after_of_run hbefore
  subst hmiddle
  obtain ⟨houtside, rfl⟩ := m.run_declaration_eq_ok hdeclaration
  exact ⟨earlier, later, extractFrom_of_run hbefore m.isOutside,
    extractFrom_of_run hboth houtside, rfl⟩

def attributeSample : String := "static __attribute__((unused))\nint BhAPI_f(void) \x7b \x7d"

/-- An attribute stands before the name. -/
def attributedFunction : NearMatch "BhAPI" where
  before := []
  keyword := ⟨.identifier, "static", 1, false⟩
  front := [⟨.identifier, "__attribute__", 1, true⟩, ⟨.punctuation, "(", 1, false⟩,
    ⟨.punctuation, "(", 1, false⟩, ⟨.identifier, "unused", 1, false⟩, ⟨.punctuation, ")", 1, false⟩,
    ⟨.punctuation, ")", 1, false⟩, ⟨.identifier, "int", 2, true⟩]
  symbol := ⟨.identifier, "BhAPI_f", 2, true⟩
  name := "f"
  parenthesis := ⟨.punctuation, "(", 2, false⟩
  back := [⟨.identifier, "void", 2, false⟩, ⟨.punctuation, ")", 2, false⟩]
  opening := ⟨.punctuation, "\x7b", 2, true⟩
  after := [⟨.punctuation, "\x7d", 2, true⟩]
  isOutside := rfl
  isTopLevel := rfl
  isStatic := by decide
  isIdentifier := rfl
  isExported := by decide
  isParenthesis := by decide
  frontCloses := by decide
  isOpening := by decide
  staysOpen := by decide
  closes := by decide

theorem tokenize_attributeSample : tokenize attributeSample = .ok attributedFunction.tokens := by
  decide +kernel

theorem extractSignatures_attributeSample :
    tokenize attributeSample = .ok attributedFunction.tokens ∧
      extractSignatures "BhAPI" attributeSample = .ok [] ∧
      ∃ earlier later, extractTokens "BhAPI" attributedFunction.before = .ok earlier ∧
        extractTokens "BhAPI" (attributedFunction.before ++ attributedFunction.declaration) =
          .ok (earlier ++ attributedFunction.contributed) ∧
        [] = earlier ++ attributedFunction.contributed ++ later := by
  have hextract : extractSignatures "BhAPI" attributeSample = .ok [] := by decide +kernel
  exact ⟨tokenize_attributeSample, hextract,
    extractSignatures_of_nearMatch attributedFunction tokenize_attributeSample hextract⟩

/-- A near-match can be passed over without an error. -/
theorem nearMatch_passedOver : ¬ ∀ (exportPrefix source : String) (m : NearMatch exportPrefix)
    (signatures : List Signature), tokenize source = .ok m.tokens →
    extractSignatures exportPrefix source = .ok signatures →
    ∃ f ∈ signatures, f.name = m.name := by
  intro h
  have hextract : extractSignatures "BhAPI" attributeSample = .ok [] := by decide +kernel
  obtain ⟨f, hf, _⟩ := h "BhAPI" attributeSample attributedFunction [] tokenize_attributeSample
    hextract
  cases hf

end ExportTable.Extraction
