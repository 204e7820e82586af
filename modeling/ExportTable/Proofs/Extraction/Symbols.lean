import ExportTable.Proofs.Extraction.SignatureTexts

/-!
# Symbols are identifiers

A text is an identifier exactly if it is read as one token of that kind and nothing else: the text of
a token is a lexeme of its kind, and an identifier is such a lexeme as a whole. The symbol of an
extracted function is the text of an identifier token, so it is an identifier under every export
prefix.
-/

namespace ExportTable.Extraction

open CSource

/-- A text that is one lexeme is read as one token, unless it begins a directive. -/
theorem tokenize_of_isLexeme {kind : TokenKind} {text : String} (h : IsLexeme kind text.toList)
    (hmark : text.toList.head? ≠ some '#') : tokenize text = .ok [⟨kind, text, 1, false⟩] := by
  have hend : ∀ next ∈ ([] : List Char).head?, joins kind text.toList next = false := by simp
  have hreads := reads_lexeme (s := .initial) h hend fun hhead ↦ absurd hhead hmark
  rw [List.append_nil, String.ofList_toList] at hreads
  rw [tokenize, tokenizeFrom_of_reads hreads, tokenizeFrom]
  rfl

theorem isIdentifier_iff_tokenize {text : String} :
    isIdentifier text ↔
      ∃ t, tokenize text = .ok [t] ∧ t.kind = .identifier ∧ t.text = text := by
  constructor
  · intro h
    obtain ⟨c, cs, htext, hfirst, _⟩ := isIdentifier_iff.mp h
    have hmark : text.toList.head? ≠ some '#' := by
      rw [htext, List.head?_cons, ne_eq, Option.some.injEq]
      exact ne_of_apply hfirst (by decide)
    exact ⟨_, tokenize_of_isLexeme (isLexeme_identifier_iff.mpr h) hmark, rfl, rfl⟩
  · rintro ⟨t, ht, hkind, rfl⟩
    have hlexeme := (legible_of_tokenize ht).lexemes t List.mem_cons_self
    rw [hkind] at hlexeme
    exact isLexeme_identifier_iff.mp hlexeme

/-- Identifiers are the texts of single identifier tokens, and the symbols of extracted functions are
identifiers. -/
theorem isIdentifier_extracted :
    (∀ text, isIdentifier text ↔
      ∃ t, tokenize text = .ok [t] ∧ t.kind = .identifier ∧ t.text = text) ∧
    ∀ exportPrefix source signatures, extractSignatures exportPrefix source = .ok signatures →
      ∀ f ∈ signatures, isIdentifier (f.symbol exportPrefix) := by
  refine ⟨fun text ↦ isIdentifier_iff_tokenize, ?_⟩
  intro exportPrefix source signatures h f hf
  exact (fitsDirectives_of_extractSignatures h f hf).isIdentifier

/-- The name begins with a digit, and the symbol does not. -/
theorem isIdentifier_extracted_digitName :
    (isIdentifier "A_9" ↔
      ∃ t, tokenize "A_9" = .ok [t] ∧ t.kind = .identifier ∧ t.text = "A_9") ∧
    extractSignatures "A" "static int A_9 /* n */ (int n) \x7b \x7d" = .ok [⟨"int", "9", "(int n)"⟩] ∧
    isIdentifier ((⟨"int", "9", "(int n)"⟩ : Signature).symbol "A") := by
  have h : extractSignatures "A" "static int A_9 /* n */ (int n) \x7b \x7d" =
      .ok [⟨"int", "9", "(int n)"⟩] := by
    decide +kernel
  obtain ⟨htext, hsymbols⟩ := isIdentifier_extracted
  exact ⟨htext "A_9", h, hsymbols _ _ _ h _ List.mem_cons_self⟩

end ExportTable.Extraction
