import ExportTable.Proofs.CSource.Directives
import ExportTable.Proofs.CSource.Identifiers
import ExportTable.Proofs.CSource.Respelling
import ExportTable.Proofs.Extraction.Exports

/-!
# The texts of extracted signatures

A header writes the return type and the parameters of a function at the ends of directives. Every
line feed in them stands in a literal, after a backslash, so a directive goes on over it. Parameters
end in a parenthesis, which ends the directive with the line; a return type may end in a backslash.
-/

namespace ExportTable.Extraction

open CSource

variable {exportPrefix : String}

/-! ## Rendered tokens in a directive -/

theorem continued_continuations {ts : List Token}
    (h : ∀ t ∈ ts, IsLexeme t.kind t.text.toList) : Continued (continuations ts) := by
  induction ts with
  | nil => exact .nil
  | cons t ts ih =>
    obtain ⟨ht, hts⟩ := List.forall_mem_cons.mp h
    rw [continuations_cons]
    apply Continued.append _ (ih hts)
    unfold Token.continuation
    cases t.spaced with
    | true => simpa using Continued.cons (by decide) ht.continued
    | false => exact ht.continued

theorem continued_render {tokens : List Token} (h : Legible tokens) :
    Continued (render tokens).toList := by
  cases tokens with
  | nil => exact .nil
  | cons t ts =>
    obtain ⟨ht, hts⟩ := List.forall_mem_cons.mp h.lexemes
    rw [toList_render_cons]
    exact ht.continued.append (continued_continuations hts)

theorem suffix_render {tokens : List Token} {t : Token} (h : tokens.getLast? = some t) :
    t.text.toList <:+ (render tokens).toList := by
  obtain ⟨front, rfl⟩ := List.getLast?_eq_some_iff.mp h
  cases front with
  | nil => simp [render]
  | cons first front =>
    have hlast : t.text.toList <:+ t.continuation.toList := by
      unfold Token.continuation
      split <;> simp
    rw [List.cons_append, toList_render_cons, continuations, List.map_append, String.join_append]
    refine hlast.trans ?_
    simp [List.suffix_append_of_suffix]

theorem getLast?_of_closeParentheses {depth : Nat} {tokens inner rest : List Token}
    (h : closeParentheses depth tokens = some (inner, rest)) :
    ∃ t ∈ inner.getLast?, t.isPunctuation ')' := by
  induction tokens generalizing depth inner with
  | nil => cases h
  | cons t ts ih =>
    rcases closeParentheses_cons_eq_some h with ⟨ht, rfl, _⟩ | ⟨_, front, rfl, hclose⟩
    · exact ⟨t, rfl, ht.1⟩
    · obtain ⟨last, hlast, hclosing⟩ := ih hclose
      exact ⟨last, List.mem_getLast?_cons hlast, hclosing⟩

/-! ## Signatures -/

/-- The texts of a signature fit into directives, and the directive of the parameters ends with
them. -/
structure FitsDirectives (exportPrefix : String) (f : Signature) : Prop where
  isIdentifier : isIdentifier (f.symbol exportPrefix)
  returnType : Continued f.returnType.toList
  parameters : Continued f.parameters.toList
  parameters_end : ¬ EndsInBackslash f.parameters.toList

namespace Export

variable {f : Signature}

theorem legible_parts (e : Export exportPrefix f) (h : Legible e.tokens) :
    Legible e.returnType ∧ IsLexeme e.symbol.kind e.symbol.text.toList ∧
      Legible e.parameters := by
  have hrest : Legible (e.symbol :: e.parameters) :=
    h.part (List.suffix_append e.returnType _).isInfix
  obtain ⟨hsymbol, _, hparameters⟩ := Legible.cons_iff.mp hrest
  exact ⟨h.part (List.prefix_append _ _).isInfix, hsymbol, hparameters⟩

theorem fitsDirectives (e : Export exportPrefix f) (h : Legible e.tokens) :
    FitsDirectives exportPrefix f := by
  obtain ⟨hreturn, hsymbol, hparameters⟩ := e.legible_parts h
  rw [e.isIdentifier, isLexeme_identifier_iff, e.isExported] at hsymbol
  refine ⟨hsymbol, ?_, ?_, ?_⟩
  · rw [← e.render_returnType]
    exact continued_render hreturn
  · rw [← e.render_parameters]
    exact continued_render hparameters
  · obtain ⟨last, hlast, hclosing⟩ := getLast?_of_closeParentheses e.closes
    have hend := suffix_render hlast
    rw [(Token.isPunctuation_iff.mp hclosing).2] at hend
    obtain ⟨front, hfront⟩ := hend
    rw [← e.render_parameters, ← hfront]
    exact not_endsInBackslash_concat (by decide) (by decide) front

/-- Every extracted signature stands in the source, in tokens that can be told apart. -/
theorem exists_of_extractSignatures {source : String} {signatures : List Signature}
    (h : extractSignatures exportPrefix source = .ok signatures) :
    ∀ f ∈ signatures, ∃ e : Export exportPrefix f, Legible e.tokens := by
  intro f hf
  obtain ⟨tokens, htokens, hextract⟩ := tokens_of_extractSignatures h
  have hinitial : Scan.initial.Collects := by
    intro d hd
    cases hd
  obtain ⟨e, he⟩ := exists_of_extractFrom hinitial hextract f hf
  exact ⟨e, (legible_of_tokenize htokens).part he⟩

end Export

theorem fitsDirectives_of_extractSignatures {source : String} {signatures : List Signature}
    (h : extractSignatures exportPrefix source = .ok signatures) :
    ∀ f ∈ signatures, FitsDirectives exportPrefix f := by
  intro f hf
  obtain ⟨e, he⟩ := Export.exists_of_extractSignatures h f hf
  exact e.fitsDirectives he

end ExportTable.Extraction
