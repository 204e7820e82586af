import ExportTable.Proofs.Extraction.Placement

/-!
# Rendering as a normal form

The rendered tokens of a text are read as the same tokens, now on the lines of the rendered text and
with nothing before the first one. So rendering them again changes nothing, and the rendered text
exports what the text exports.
-/

namespace ExportTable.Extraction

open CSource

/-- Rendered tokens are read back but for their lines and for what separated the first one. -/
theorem exists_tokenize_render {source : String} {t : Token} {ts : List Token}
    (h : tokenize source = .ok (t :: ts)) :
    ∃ others, tokenize (render (t :: ts)) = .ok ({ t with line := 1, spaced := false } :: others) ∧
      others.map Token.unlined = ts.map Token.unlined := by
  obtain ⟨_, hsource⟩ := reads_of_tokenize h
  have hmark := head?_ne_numberSign hsource rfl t rfl
  obtain ⟨others, last, hreads, _, hsame⟩ := reads_render_cons (legible_of_tokenize h)
    (s := .initial) (fun hhead ↦ absurd hhead hmark) fun u _ ↦ u.endsBefore_nil
  refine ⟨others, ?_, hsame⟩
  rw [List.append_nil] at hreads
  rw [tokenize, tokenizeFrom_of_reads hreads, tokenizeFrom, ok_map, List.append_nil]
  rfl

theorem extractSignatures_of_tokenize {exportPrefix source : String} {tokens : List Token}
    (h : tokenize source = .ok tokens) :
    extractSignatures exportPrefix source = extractTokens exportPrefix tokens := by
  rw [extractSignatures, h]

/-- The rendered text of tokens has the same tokens, with the same separations after the first one,
renders to itself, and exports the same functions. -/
theorem tokenize_render {source : String} {tokens : List Token}
    (h : tokenize source = .ok tokens) :
    ∃ others, tokenize (render tokens) = .ok others ∧
      others.map Token.word = tokens.map Token.word ∧
      others.tail.map Token.spaced = tokens.tail.map Token.spaced ∧
      (∀ t ∈ others.head?, t.spaced = false) ∧
      render others = render tokens ∧
      ∀ exportPrefix signatures, extractSignatures exportPrefix (render tokens) = .ok signatures ↔
        extractSignatures exportPrefix source = .ok signatures := by
  cases tokens with
  | nil =>
    have hempty : tokenize (render []) = .ok [] := by
      rw [tokenize, render, String.toList_empty, tokenizeFrom]
    refine ⟨[], hempty, rfl, rfl, by simp, rfl, fun exportPrefix signatures ↦ ?_⟩
    rw [extractSignatures_of_tokenize h, extractSignatures_of_tokenize hempty]
  | cons t ts =>
    obtain ⟨others, hothers, hsame⟩ := exists_tokenize_render h
    have hwords : others.map Token.word = ts.map Token.word := by
      have hmap := congrArg (List.map Token.word) hsame
      rwa [List.map_map, List.map_map] at hmap
    have hspaced : others.map Token.spaced = ts.map Token.spaced := by
      have hmap := congrArg (List.map Token.spaced) hsame
      rwa [List.map_map, List.map_map] at hmap
    have hfirst : Token.bare { t with line := 1, spaced := false } = t.bare := rfl
    have hextract (exportPrefix : String) := extractTokens_of_unlined exportPrefix hfirst hsame
    refine ⟨_, hothers, ?_, hspaced, by simp, ?_, fun exportPrefix signatures ↦ ?_⟩
    · rw [List.map_cons, List.map_cons, hwords]
      rfl
    · rw [render, render, map_continuation_of_unlined hsame]
    · rw [extractSignatures_of_tokenize hothers, extractSignatures_of_tokenize h,
        ← toOption_eq_some_iff, ← toOption_eq_some_iff, hextract]

/-- Slashes and a number sign that spaces keep what they are, and a literal over two lines. -/
def partedSample : String :=
  "#define X 1\n/* c */ a / /b # \"x\\\ny\" 1.e+2; static // n\n int A_f(void) \x7b \x7d"

theorem tokenize_render_partedSample :
    extractSignatures "A" partedSample = .ok [⟨"int", "f", "(void)"⟩] ∧
      ∃ tokens others, tokenize partedSample = .ok tokens ∧ tokenize (render tokens) = .ok others ∧
        others.map Token.word = tokens.map Token.word ∧ render others = render tokens ∧
        extractSignatures "A" (render tokens) = .ok [⟨"int", "f", "(void)"⟩] := by
  have hextract : extractSignatures "A" partedSample = .ok [⟨"int", "f", "(void)"⟩] := by
    decide +kernel
  obtain ⟨tokens, htokens, _⟩ := tokens_of_extractSignatures hextract
  obtain ⟨others, hothers, hwords, _, _, hrender, hsignatures⟩ := tokenize_render htokens
  exact ⟨hextract, tokens, others, htokens, hothers, hwords, hrender, (hsignatures _ _).mpr hextract⟩

end ExportTable.Extraction
