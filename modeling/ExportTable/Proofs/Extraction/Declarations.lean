import ExportTable.Proofs.Extraction.Nesting

/-!
# Reading declaration by declaration

The scanner keeps the tokens after `static` and asks at each token whether it ends the declaration.
`cutDeclaration` looks ahead instead, for the first brace, semicolon or equals sign outside
parentheses. At the top level the scanner reads the declaration that is cut off there, and then goes
on with the token that ends it.
-/

namespace ExportTable.Extraction

open CSource

/-- Cuts before the token that ends the declaration, where `depth` parentheses are open. -/
def cutDeclaration (depth : Nat) : List Token → List Token × List Token
  | [] => ([], [])
  | t :: ts =>
    if depth = 0 ∧ endsDeclaration t then ([], t :: ts)
    else
      let (declaration, rest) := cutDeclaration (openAfter depth t) ts
      (t :: declaration, rest)

variable {declaration rest : List Token}

/-- No token of the declaration ends it, and the next one does, outside parentheses. -/
theorem of_cutDeclaration {depth : Nat} {tokens : List Token}
    (h : cutDeclaration depth tokens = (declaration, rest)) :
    tokens = declaration ++ rest ∧ StaysOpen depth declaration ∧
      ∀ ending ∈ rest.head?, endsDeclaration ending ∧ openParentheses depth declaration = 0 := by
  induction tokens generalizing depth declaration with
  | nil =>
    cases h
    exact ⟨rfl, trivial, by simp⟩
  | cons t ts ih =>
    rw [cutDeclaration] at h
    split at h
    next hend =>
      cases h
      refine ⟨rfl, trivial, ?_⟩
      rintro ending ⟨⟩
      exact ⟨hend.2, hend.1⟩
    next hend =>
      cases hcut : cutDeclaration (openAfter depth t) ts with
      | mk inner back =>
        rw [hcut] at h
        cases h
        obtain ⟨rfl, hstays, hnext⟩ := ih hcut
        refine ⟨rfl, ⟨fun hdepth ↦ ?_, hstays⟩, hnext⟩
        simpa [hdepth] using hend

variable {exportPrefix : String}

/-- Outside declarations a token is passed over. -/
theorem extractFrom_pass {s : Scan} (hs : s.declaration = none) (t : Token) (ts : List Token) :
    extractFrom exportPrefix s (t :: ts) = extractFrom exportPrefix (s.pass t) ts := by
  have hstep : s.step exportPrefix t = .ok (s.pass t, none) := by
    rw [Scan.step, hs]
  rw [extractFrom, hstep, ok_bind]
  exact bind_pure _

/-- At the top level `static` begins a declaration, and reading goes on with the token that ends it. -/
theorem extractFrom_static {scopes : List Bool} (hscopes : scopes.all id) (before : List Token)
    {keyword : Token} (hkeyword : keyword.isWord "static") {after : List Token}
    (hcut : cutDeclaration 0 after = (declaration, rest)) :
    extractFrom exportPrefix (.outside scopes before) (keyword :: after) = do
      let found ← readDeclaration exportPrefix declaration rest.head?
      let later ← extractFrom exportPrefix (.outside scopes (before ++ keyword :: declaration)) rest
      return found.toList ++ later := by
  obtain ⟨rfl, hstays, hnext⟩ := of_cutDeclaration hcut
  cases rest with
  | nil =>
    have hopen := run_open (d := ⟨0, []⟩) hstays exportPrefix scopes (keyword :: before.reverse)
    rw [extractFrom_pass rfl, Scan.pass_static hkeyword hscopes, extractFrom_append, hopen]
    simp only [ok_bind, extractFrom, List.append_nil, List.reverse_reverse, List.head?_nil]
    cases readDeclaration exportPrefix declaration none with
    | error e => rfl
    | ok found => simp [Scan.outside]
  | cons ending later =>
    obtain ⟨hending, hcloses⟩ := hnext ending rfl
    have hrun := run_declaration exportPrefix hscopes before hkeyword hstays hcloses hending
    have hsplit : keyword :: (declaration ++ ending :: later) =
        keyword :: (declaration ++ [ending]) ++ later := by
      simp
    rw [hsplit, extractFrom_append, hrun, List.head?_cons, extractFrom_pass rfl]
    cases readDeclaration exportPrefix declaration (some ending) <;> rfl

end ExportTable.Extraction
