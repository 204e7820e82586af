import ExportTable.Proofs.Extraction.Nesting
import Mathlib.Data.List.TakeWhile

/-!
# Where a signature comes from

Every signature that is found stands in the source: in a declaration whose tokens the scanner
collected one by one, from `static` to the brace that opens the body. `Export` keeps such a
declaration, cut into return type, symbol and parameter list, with all that the scanner checked
there; wherever its tokens stand at the top level, the scanner finds the same signature again.
-/

namespace ExportTable.Extraction

open CSource

/-! ## Declarations -/

theorem eq_append_of_splitAtLastIdentifier {tokens : List Token} {d : Declarator}
    (h : splitAtLastIdentifier tokens = some d) : tokens = d.returnType ++ d.name :: d.rest := by
  induction tokens generalizing d with
  | nil => cases h
  | cons t ts ih =>
    rw [splitAtLastIdentifier] at h
    split at h
    next d' hd' =>
      cases h
      rw [ih hd', List.cons_append]
    next =>
      split at h
      · cases h
        rfl
      · cases h

/-- A declarator that a parenthesis follows is what stands before the first one. -/
theorem of_declarator?_eq_some {declaration : List Token} {d : Declarator}
    (h : declarator? declaration = some d) (hopening : d.rest.head?.any (·.isPunctuation '(')) :
    declaration = d.returnType ++ d.name :: d.rest ∧ d.name.kind = .identifier ∧
      ∀ t ∈ d.returnType, t.isPunctuation '(' = false := by
  cases hany : declaration.any (·.isPunctuation '(') with
  | true =>
    obtain ⟨front, opening, back, rfl, hfront, hfirst⟩ := exists_first_parenthesis hany
    rw [declarator?_append hfront hfirst] at h
    obtain ⟨name, hname, h⟩ := Option.bind_eq_some_iff.mp h
    split at h
    next hidentifier =>
      cases h
      have hsplit : front.dropLast ++ [name] = front := List.dropLast_append_getLast? name hname
      refine ⟨?_, hidentifier, ?_⟩
      · calc
          front ++ opening :: back = front.dropLast ++ [name] ++ opening :: back := by rw [hsplit]
          _ = front.dropLast ++ name :: opening :: back := by simp
      · intro t ht
        exact hfront t (List.dropLast_subset front ht)
    next => cases h
  | false =>
    have hnone : ∀ t ∈ declaration, t.isPunctuation '(' = false := by simpa using hany
    have hrest : declaration.dropWhile (!·.isPunctuation '(') = [] := by
      rw [List.dropWhile_eq_nil_iff]
      intro t ht
      rw [hnone t ht]
      rfl
    rw [declarator?, hrest] at h
    obtain ⟨t, ht, hfirst⟩ := (Option.any_eq_true _ _).mp hopening
    have hmem : t ∈ declaration := by
      rw [eq_append_of_splitAtLastIdentifier h]
      exact List.mem_append_right _ (List.mem_cons_of_mem _ (List.mem_of_head? ht))
    rw [hnone t hmem] at hfirst
    cases hfirst

/-- An exported declaration with a body: what stands between `static` and the brace. -/
structure Export (exportPrefix : String) (f : Signature) where
  returnType : List Token
  symbol : Token
  parameters : List Token
  returnType_ne_nil : returnType ≠ []
  isReturnType : ∀ t ∈ returnType, t.isPunctuation '(' = false
  isIdentifier : symbol.kind = .identifier
  isExported : symbol.text = f.symbol exportPrefix
  name_ne_empty : f.name ≠ ""
  opens : parameters.head?.any (·.isPunctuation '(')
  closes : closeParentheses 0 parameters = some (parameters, [])
  staysOpen : StaysOpen 0 (returnType ++ symbol :: parameters)
  balances : openParentheses 0 (returnType ++ symbol :: parameters) = 0
  render_returnType : render returnType = f.returnType
  render_parameters : render parameters = f.parameters

namespace Export

variable {exportPrefix : String} {f : Signature}

def tokens (e : Export exportPrefix f) : List Token := e.returnType ++ e.symbol :: e.parameters

theorem exists_of_readDeclaration {declaration : List Token} {ending : Token}
    (h : readDeclaration exportPrefix declaration (some ending) = .ok (some f))
    (hstays : StaysOpen 0 declaration) (hbalances : openParentheses 0 declaration = 0) :
    ∃ e : Export exportPrefix f, e.tokens = declaration := by
  unfold readDeclaration at h
  split at h
  · cases h
  next d hd =>
  split at h
  · cases h
  next rest hname =>
  dsimp only at h
  split at h
  next =>
    obtain ⟨_, hread, hsome⟩ := map_eq_ok_iff.mp h
    cases hsome
    obtain ⟨hne, hreturn, hopening, hclose, rfl⟩ := readDefinition_eq_ok_iff.mp hread
    obtain ⟨rfl, hidentifier, hfront⟩ := of_declarator?_eq_some hd hopening
    have hsymbol : d.name.text = exportPrefix ++ "_" ++ String.ofList rest := by
      rw [← String.toList_inj, ← List.isPrefixOf?_eq_some_iff_append_eq.mp hname]
      simp
    exact ⟨⟨d.returnType, d.name, d.rest, hreturn, hfront, hidentifier, hsymbol, hne, hopening,
      hclose, hstays, hbalances, rfl, rfl⟩, rfl⟩
  next => cases h

/-- The declaration is read as the signature. -/
theorem readDeclaration_tokens (e : Export exportPrefix f) {ending : Token}
    (hending : ending.isPunctuation '{') :
    readDeclaration exportPrefix e.tokens (some ending) = .ok (some f) := by
  have hparameters := e.opens
  have hclose := e.closes
  have hd : declarator? e.tokens = some ⟨e.returnType, e.symbol, e.parameters⟩ := by
    rw [tokens]
    cases hcases : e.parameters with
    | nil =>
      rw [hcases] at hparameters
      cases hparameters
    | cons opening back =>
      rw [hcases] at hparameters
      exact declarator?_of_first e.isReturnType e.isIdentifier hparameters
  have hread : readDefinition exportPrefix f.name ⟨e.returnType, e.symbol, e.parameters⟩ =
      .ok f := by
    rw [readDefinition_eq_ok_iff]
    refine ⟨e.name_ne_empty, e.returnType_ne_nil, hparameters, hclose, ?_⟩
    rw [e.render_returnType, e.render_parameters]
  rw [readDeclaration_of_exported hd e.isExported hending, hread]
  rfl

/-- A definition with an empty body at the top level gives the signature. -/
theorem run_definition (e : Export exportPrefix f) {keyword opening closing : Token}
    (hkeyword : keyword.isWord "static") (hopening : opening.isPunctuation '{')
    (hclosing : closing.isPunctuation '}') (before : List Token) :
    (Scan.outside [] before).run exportPrefix (keyword :: (e.tokens ++ [opening, closing])) =
      .ok (Scan.outside [] (before ++ keyword :: (e.tokens ++ [opening, closing])), [f]) := by
  have hending : endsDeclaration opening := by simp [endsDeclaration, hopening]
  have hdeclaration := run_declaration exportPrefix (show ([] : List Bool).all id from rfl) before
    hkeyword e.staysOpen e.balances hending
  rw [← tokens, e.readDeclaration_tokens hopening, ok_map, Scan.pass_opening hopening]
    at hdeclaration
  -- Whichever scope the brace opens, the next token closes it.
  have hbody (linkage : Bool) :
      (Scan.outside [linkage] (before ++ keyword :: e.tokens ++ [opening])).run exportPrefix
        [closing] =
        .ok (Scan.outside [] (before ++ keyword :: e.tokens ++ [opening] ++ [closing]), []) :=
    Scan.run_pass_cons rfl (Scan.pass_closing hclosing [linkage] _) (Scan.run_nil exportPrefix _)
  simpa using Scan.run_trans hdeclaration (hbody _)

end Export

/-! ## Collecting -/

/-- The tokens of an open declaration are the latest ones that were read, and none of them ends it. -/
structure OpenDeclaration.Collected (d : OpenDeclaration) (read : List Token) : Prop where
  latest : d.tokens <+: read
  staysOpen : StaysOpen 0 d.tokens.reverse
  depth_eq : openParentheses 0 d.tokens.reverse = d.depth

theorem OpenDeclaration.Collected.add {d : OpenDeclaration} {read : List Token}
    (h : d.Collected read) {t : Token} (hopen : d.depth = 0 → endsDeclaration t = false) :
    (d.add t).Collected (t :: read) where
  latest := List.cons_prefix_cons.mpr ⟨rfl, h.latest⟩
  staysOpen := by
    rw [OpenDeclaration.add, List.reverse_cons, staysOpen_append, h.depth_eq]
    exact ⟨h.staysOpen, hopen, trivial⟩
  depth_eq := by
    rw [OpenDeclaration.add, List.reverse_cons, openParentheses_append, h.depth_eq]
    rfl

namespace Scan

def Collects (s : Scan) : Prop := ∀ d ∈ s.declaration, d.Collected s.read

theorem collects_pass (s : Scan) (t : Token) : (s.pass t).Collects := by
  intro d hd
  unfold pass at hd
  repeat' split at hd
  all_goals cases hd
  exact { latest := List.nil_prefix, staysOpen := trivial, depth_eq := rfl }

theorem Collects.next {s : Scan} (h : s.Collects) (t : Token) : (s.next t).Collects := by
  unfold Scan.next
  split
  · exact s.collects_pass t
  next d hd =>
    split
    · exact s.collects_pass t
    next hend =>
      intro added hadded
      cases hadded
      apply (h d hd).add
      intro hdepth
      simpa [hdepth] using hend

end Scan

namespace Export

variable {exportPrefix : String} {f : Signature}

theorem exists_of_found {s : Scan} (hs : s.Collects) {t : Token}
    (h : s.found exportPrefix t = .ok (some f)) :
    ∃ e : Export exportPrefix f, e.tokens <:+: s.read.reverse := by
  unfold Scan.found at h
  split at h
  · cases h
  next d hd =>
    split at h
    next hend =>
      obtain ⟨hlatest, hstays, hdepth⟩ := hs d hd
      obtain ⟨e, he⟩ := exists_of_readDeclaration h hstays (hdepth.trans hend.1)
      refine ⟨e, ?_⟩
      rw [he]
      exact (List.reverse_suffix.mpr hlatest).isInfix
    next => cases h

/-- Every signature that is found belongs to a declaration among the tokens. -/
theorem exists_of_extractFrom {s : Scan} (hs : s.Collects) {tokens : List Token}
    {signatures : List Signature} (h : extractFrom exportPrefix s tokens = .ok signatures) :
    ∀ f ∈ signatures, ∃ e : Export exportPrefix f, e.tokens <:+: s.read.reverse ++ tokens := by
  induction tokens generalizing s signatures with
  | nil =>
    rw [eq_nil_of_extractFrom_nil h]
    simp
  | cons t ts ih =>
    rw [extractFrom, bind_eq_ok_iff] at h
    obtain ⟨⟨middle, found⟩, hstep, h⟩ := h
    obtain ⟨later, hlater, hall⟩ := bind_eq_ok_iff.mp h
    cases hall
    rw [Scan.step_eq, map_eq_ok_iff] at hstep
    obtain ⟨_, hfound, hmiddle⟩ := hstep
    cases hmiddle
    intro f hf
    cases List.mem_append.mp hf with
    | inl hfirst =>
      have hsome : found = some f := Option.mem_toList.mp hfirst
      rw [hsome] at hfound
      obtain ⟨e, he⟩ := exists_of_found hs hfound
      exact ⟨e, he.trans (List.prefix_append _ _).isInfix⟩
    | inr hrest =>
      obtain ⟨e, he⟩ := ih (hs.next t) hlater f hrest
      rw [Scan.read_next, List.reverse_cons, List.append_assoc] at he
      exact ⟨e, he⟩

end Export

end ExportTable.Extraction
