import ExportTable.Proofs.CSource.Lines
import ExportTable.Proofs.CSource.Respelling
import ExportTable.Proofs.Extraction.Scanning

/-!
# Where tokens stand

The scanner asks for the kinds and texts of tokens. Those of a declaration it also renders, with what
separates them; a line it only tells in an error. So a stream gives the same signatures as one with
the same tokens on other lines, and the first token of the stream may be separated or not.
-/

namespace ExportTable.Extraction

open CSource

/-! ## Tokens with the same words -/

theorem word_unlined (t : Token) : t.unlined.word = t.word := rfl

theorem word_bare (t : Token) : t.bare.word = t.word := rfl

theorem bare_of_unlined {t t' : Token} (h : t'.unlined = t.unlined) : t'.bare = t.bare := by
  have hbare : t'.unlined.bare = t.unlined.bare := by rw [h]
  exact hbare

theorem endsDeclaration_of_unlined {t t' : Token} (h : t'.unlined = t.unlined) :
    endsDeclaration t' = endsDeclaration t := by
  have hend : endsDeclaration t'.unlined = endsDeclaration t.unlined := by rw [h]
  exact hend

section Words

variable {f : Token → Token} (hf : ∀ t, (f t).word = t.word)

include hf

theorem isPunctuation_of_word (t : Token) (c : Char) :
    (f t).isPunctuation c = t.isPunctuation c := by
  obtain ⟨hkind, htext⟩ := Prod.mk.inj (hf t)
  rw [Token.isPunctuation, hkind, htext, Token.isPunctuation]

def Declarator.map (f : Token → Token) (d : Declarator) : Declarator :=
  ⟨d.returnType.map f, f d.name, d.rest.map f⟩

theorem splitAtLastIdentifier_map (tokens : List Token) :
    splitAtLastIdentifier (tokens.map f) = (splitAtLastIdentifier tokens).map (·.map f) := by
  induction tokens with
  | nil => rfl
  | cons t ts ih =>
    rw [List.map_cons, splitAtLastIdentifier, splitAtLastIdentifier, ih]
    cases splitAtLastIdentifier ts with
    | some d => rfl
    | none =>
      have hkind : (f t).kind = t.kind := (Prod.mk.inj (hf t)).1
      simp only [Option.map_none, hkind]
      split <;> rfl

theorem declarator?_map (tokens : List Token) :
    declarator? (tokens.map f) = (declarator? tokens).map (·.map f) := by
  have hopening : (fun t ↦ !Token.isPunctuation t '(') ∘ f = fun t ↦ !t.isPunctuation '(' := by
    funext t
    simp [isPunctuation_of_word hf]
  unfold declarator?
  simp only [List.takeWhile_map, List.dropWhile_map, hopening]
  cases tokens.dropWhile (!·.isPunctuation '(') with
  | nil => exact splitAtLastIdentifier_map hf tokens
  | cons opening rest =>
    simp only [List.map_cons, List.getLast?_map]
    cases (tokens.takeWhile (!·.isPunctuation '(')).getLast? with
    | none => rfl
    | some name =>
      have hkind : (f name).kind = name.kind := (Prod.mk.inj (hf name)).1
      simp only [Option.map_some, hkind]
      split
      · simp [Declarator.map, List.map_dropLast]
      · rfl

theorem closeParentheses_map (depth : Nat) (tokens : List Token) :
    closeParentheses depth (tokens.map f) = (closeParentheses depth tokens).map
      fun (inner, rest) ↦ (inner.map f, rest.map f) := by
  induction tokens generalizing depth with
  | nil => rfl
  | cons t ts ih =>
    have hafter : openAfter depth (f t) = openAfter depth t := by
      simp only [openAfter, isPunctuation_of_word hf]
    rw [List.map_cons, closeParentheses_cons, closeParentheses_cons, isPunctuation_of_word hf, hafter]
    split
    · rfl
    · rw [ih, Option.map_map, Option.map_map]
      rfl

end Words

/-! ## Tokens on other lines -/

theorem render_unlined (tokens : List Token) : render (tokens.map Token.unlined) = render tokens := by
  cases tokens with
  | nil => rfl
  | cons t ts =>
    have hcontinuations : (ts.map Token.unlined).map Token.continuation =
        ts.map Token.continuation := by
      rw [List.map_map]
      rfl
    rw [List.map_cons, render, render, hcontinuations]
    rfl

theorem readDefinition_unlined (exportPrefix name : String) (d : Declarator) :
    (readDefinition exportPrefix name (d.map Token.unlined)).toOption =
      (readDefinition exportPrefix name d).toOption := by
  have hopens : (d.map Token.unlined).rest.head?.any (·.isPunctuation '(') =
      d.rest.head?.any (·.isPunctuation '(') := by
    simp only [Declarator.map, List.head?_map, Option.any_map]
    rfl
  have hclose : closeParentheses 0 (d.map Token.unlined).rest = (closeParentheses 0 d.rest).map
      fun (inner, rest) ↦ (inner.map Token.unlined, rest.map Token.unlined) :=
    closeParentheses_map word_unlined 0 d.rest
  have hreturn : (d.map Token.unlined).returnType = [] ↔ d.returnType = [] := List.map_eq_nil_iff
  unfold readDefinition
  simp only [hopens, hreturn, hclose]
  split
  · rfl
  split
  · rfl
  split
  · rfl
  cases closeParentheses 0 d.rest with
  | none => rfl
  | some parts =>
    obtain ⟨parameters, _ | ⟨extra, rest⟩⟩ := parts
    · simp [Declarator.map, render_unlined]
    · rfl

theorem readDeclaration_unlined (exportPrefix : String) (tokens : List Token)
    (ending : Option Token) :
    (readDeclaration exportPrefix (tokens.map Token.unlined) (ending.map Token.unlined)).toOption =
      (readDeclaration exportPrefix tokens ending).toOption := by
  have hdeclarator : declarator? (tokens.map Token.unlined) =
      (declarator? tokens).map (·.map Token.unlined) := declarator?_map word_unlined tokens
  unfold readDeclaration
  rw [hdeclarator]
  cases declarator? tokens with
  | none => rfl
  | some d =>
    have hname : (d.map Token.unlined).name.text = d.name.text := rfl
    simp only [Option.map_some, hname]
    cases (exportPrefix ++ "_").toList.isPrefixOf? d.name.text.toList with
    | none => rfl
    | some rest =>
      cases ending with
      | none =>
        have hopens : (d.map Token.unlined).rest.head?.any (·.isPunctuation '(') =
            d.rest.head?.any (·.isPunctuation '(') := by
          simp only [Declarator.map, List.head?_map, Option.any_map]
          rfl
        simp only [Option.map_none, hopens]
        split <;> rfl
      | some t =>
        have hbrace : t.unlined.isPunctuation '{' = t.isPunctuation '{' := rfl
        simp only [Option.map_some, hbrace]
        split
        · rw [toOption_map, toOption_map, readDefinition_unlined]
        · rfl

/-! ## Scans -/

def OpenDeclaration.unlined (d : OpenDeclaration) : OpenDeclaration :=
  { d with tokens := d.tokens.map Token.unlined }

theorem OpenDeclaration.depth_eq_of_unlined {d d' : OpenDeclaration}
    (h : d'.unlined = d.unlined) : d'.depth = d.depth := by
  have hdepth : d'.unlined.depth = d.unlined.depth := by rw [h]
  exact hdepth

theorem OpenDeclaration.add_unlined {d d' : OpenDeclaration} (hd : d'.unlined = d.unlined)
    {t t' : Token} (ht : t'.unlined = t.unlined) : (d'.add t').unlined = (d.add t).unlined := by
  have hadd (d : OpenDeclaration) (t : Token) :
      (d.add t).unlined = d.unlined.add t.unlined := rfl
  rw [hadd, hadd, hd, ht]

theorem readDeclaration_of_unlined (exportPrefix : String) {d d' : OpenDeclaration}
    (hd : d'.unlined = d.unlined) {ending ending' : Option Token}
    (hending : ending'.map Token.unlined = ending.map Token.unlined) :
    (readDeclaration exportPrefix d'.tokens.reverse ending').toOption =
      (readDeclaration exportPrefix d.tokens.reverse ending).toOption := by
  have htokens : d'.tokens.map Token.unlined = d.tokens.map Token.unlined :=
    congrArg OpenDeclaration.tokens hd
  have hreverse : d'.tokens.reverse.map Token.unlined = d.tokens.reverse.map Token.unlined := by
    rw [List.map_reverse, List.map_reverse, htokens]
  rw [← readDeclaration_unlined, hreverse, hending, readDeclaration_unlined]

namespace Scan

/-- Scans that differ in where tokens stand, and in the separations of those outside the open
declaration. -/
structure Alike (s s' : Scan) : Prop where
  scopes : s'.scopes = s.scopes
  read : s'.read.map Token.bare = s.read.map Token.bare
  declaration :
    s'.declaration.map OpenDeclaration.unlined = s.declaration.map OpenDeclaration.unlined

variable {s s' : Scan} {t t' : Token}

theorem Alike.opensLinkage (h : s.Alike s') : s'.opensLinkage = s.opensLinkage := by
  have hread (s : Scan) : s.opensLinkage =
      (⟨s.scopes, s.read.map Token.bare, none⟩ : Scan).opensLinkage := by
    unfold Scan.opensLinkage
    obtain _ | ⟨linkage, _ | ⟨keyword, read⟩⟩ := s.read <;> rfl
  rw [hread s, hread s', h.read, h.scopes]

theorem Alike.pass (h : s.Alike s') (ht : t'.bare = t.bare) : (s.pass t).Alike (s'.pass t') := by
  have hmark (c : Char) : t'.isPunctuation c = t.isPunctuation c := congrArg (·.isPunctuation c) ht
  have hword (word : String) : t'.isWord word = t.isWord word := congrArg (·.isWord word) ht
  have htop : s'.atTopLevel = s.atTopLevel := congrArg (List.all · id) h.scopes
  have hread : (t' :: s'.read).map Token.bare = (t :: s.read).map Token.bare := by
    rw [List.map_cons, List.map_cons, ht, h.read]
  unfold Scan.pass
  rw [hmark, hmark, hword, htop, h.opensLinkage, h.scopes]
  split
  · exact ⟨rfl, hread, rfl⟩
  split
  · exact ⟨rfl, hread, rfl⟩
  split
  · exact ⟨rfl, hread, rfl⟩
  · exact ⟨rfl, hread, rfl⟩

/-- The declarations of alike scans. -/
theorem Alike.declaration_cases (h : s.Alike s') :
    (s.declaration = none ∧ s'.declaration = none) ∨
      ∃ d d' : OpenDeclaration, s.declaration = some d ∧ s'.declaration = some d' ∧
        d'.unlined = d.unlined := by
  have hsame := h.declaration
  cases hd : s.declaration with
  | none =>
    rw [hd] at hsame
    exact .inl ⟨rfl, Option.map_eq_none_iff.mp hsame⟩
  | some d =>
    rw [hd] at hsame
    obtain ⟨d', hd', hunlined⟩ := Option.map_eq_some_iff.mp hsame
    exact .inr ⟨d, d', rfl, hd', hunlined⟩

theorem Alike.next (h : s.Alike s') (ht : t'.unlined = t.unlined) :
    (s.next t).Alike (s'.next t') := by
  have hbare := bare_of_unlined ht
  unfold Scan.next
  obtain ⟨hd, hd'⟩ | ⟨d, d', hd, hd', hsame⟩ := h.declaration_cases
  · rw [hd, hd']
    exact h.pass hbare
  rw [hd, hd']
  simp only [OpenDeclaration.depth_eq_of_unlined hsame, endsDeclaration_of_unlined ht]
  split
  · exact h.pass hbare
  · refine ⟨h.scopes, ?_, ?_⟩
    · rw [List.map_cons, List.map_cons, hbare, h.read]
    · simp only [Option.map_some, Option.some.injEq]
      exact OpenDeclaration.add_unlined hsame ht

theorem Alike.found (h : s.Alike s') (ht : t'.unlined = t.unlined) (exportPrefix : String) :
    (s'.found exportPrefix t').toOption = (s.found exportPrefix t).toOption := by
  unfold Scan.found
  obtain ⟨hd, hd'⟩ | ⟨d, d', hd, hd', hsame⟩ := h.declaration_cases
  · rw [hd, hd']
  rw [hd, hd']
  simp only [OpenDeclaration.depth_eq_of_unlined hsame, endsDeclaration_of_unlined ht]
  split
  · exact readDeclaration_of_unlined exportPrefix hsame (congrArg some ht)
  · rfl

end Scan

theorem extractFrom_of_alike {exportPrefix : String} {s s' : Scan} (hs : s.Alike s')
    {tokens others : List Token} (h : others.map Token.unlined = tokens.map Token.unlined) :
    (extractFrom exportPrefix s' others).toOption =
      (extractFrom exportPrefix s tokens).toOption := by
  induction tokens generalizing s s' others with
  | nil =>
    obtain rfl : others = [] := List.map_eq_nil_iff.mp h
    rw [extractFrom, extractFrom]
    obtain ⟨hd, hd'⟩ | ⟨d, d', hd, hd', hsame⟩ := hs.declaration_cases
    · rw [hd, hd']
    · rw [hd, hd']
      dsimp only
      rw [toOption_map, toOption_map, readDeclaration_of_unlined exportPrefix hsame rfl]
  | cons t ts ih =>
    obtain ⟨t', ts', rfl, ht, hts⟩ := List.map_eq_cons_iff.mp h
    have hfound := hs.found ht exportPrefix
    have hrest := ih (hs.next ht) hts
    rw [extractFrom, extractFrom, Scan.step_eq, Scan.step_eq, toOption_bind, toOption_bind,
      toOption_map, toOption_map, hfound, Option.bind_map, Option.bind_map]
    simp only [Function.comp_def, toOption_bind, hrest]

/-- Streams of the same words, with the same separations after the first token, give the same
signatures. -/
theorem extractTokens_of_unlined (exportPrefix : String) {t t' : Token} {ts ts' : List Token}
    (ht : t'.bare = t.bare) (hts : ts'.map Token.unlined = ts.map Token.unlined) :
    (extractTokens exportPrefix (t' :: ts')).toOption =
      (extractTokens exportPrefix (t :: ts)).toOption := by
  have hinitial : Scan.initial.Alike Scan.initial := ⟨rfl, rfl, rfl⟩
  have hfirst (t : Token) (ts : List Token) : extractTokens exportPrefix (t :: ts) =
      (extractFrom exportPrefix (Scan.initial.pass t) ts).map ([] ++ ·) := by
    rw [extractTokens, extractFrom]
    rfl
  rw [hfirst, hfirst, toOption_map, toOption_map, extractFrom_of_alike (hinitial.pass ht) hts]

end ExportTable.Extraction
