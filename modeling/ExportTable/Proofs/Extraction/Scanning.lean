import ExportTable.Proofs.Extraction.Declarators

/-!
# Reading a token stream in parts

What the scanner remembers after some tokens does not depend on the export prefix, and what it finds
in two stretches of tokens is what it finds in the first followed by what it finds in the second.
`Scan.run` reads a stretch in the middle of a stream; `run_append` and `extractFrom_append` cut a
stream into stretches, so that a statement about a kind of stretch is a statement about `Scan.run`.
-/

namespace ExportTable.Extraction

open CSource

namespace Scan

/-- The scanner after one more token, whatever is found there. -/
def next (s : Scan) (t : Token) : Scan :=
  match s.declaration with
  | none => s.pass t
  | some d =>
    if d.depth = 0 ∧ endsDeclaration t then s.pass t
    else ⟨s.scopes, t :: s.read, some (d.add t)⟩

/-- The scanner after more tokens. -/
def after (s : Scan) (tokens : List Token) : Scan := tokens.foldl next s

/-- What one more token completes. -/
def found (exportPrefix : String) (s : Scan) (t : Token) :
    Except ExtractionError (Option Signature) :=
  match s.declaration with
  | none => .ok none
  | some d =>
    if d.depth = 0 ∧ endsDeclaration t then
      readDeclaration exportPrefix d.tokens.reverse (some t)
    else .ok none

theorem step_eq (exportPrefix : String) (s : Scan) (t : Token) :
    s.step exportPrefix t = (s.found exportPrefix t).map (s.next t, ·) := by
  unfold step found next
  cases s.declaration with
  | none => rfl
  | some d =>
    by_cases hend : d.depth = 0 ∧ endsDeclaration t
    · simp only [if_pos hend]
    · simp only [if_neg hend]
      rfl

/-- Reads a stretch of tokens: the scanner after it, and the functions found in it. -/
def run (exportPrefix : String) (s : Scan) :
    List Token → Except ExtractionError (Scan × List Signature)
  | [] => pure (s, [])
  | t :: ts => do
    let (s, first) ← s.step exportPrefix t
    let (s, later) ← s.run exportPrefix ts
    return (s, first.toList ++ later)

theorem run_nil (exportPrefix : String) (s : Scan) : s.run exportPrefix [] = .ok (s, []) := rfl

theorem run_cons {exportPrefix : String} {s middle last : Scan} {t : Token} {ts : List Token}
    {first : Option Signature} {later : List Signature}
    (hstep : s.step exportPrefix t = .ok (middle, first))
    (hrest : middle.run exportPrefix ts = .ok (last, later)) :
    s.run exportPrefix (t :: ts) = .ok (last, first.toList ++ later) := by
  rw [run, hstep, ok_bind]
  dsimp only
  rw [hrest]
  rfl

theorem run_append (exportPrefix : String) (s : Scan) (front back : List Token) :
    s.run exportPrefix (front ++ back) = do
      let (s, first) ← s.run exportPrefix front
      let (s, later) ← s.run exportPrefix back
      return (s, first ++ later) := by
  induction front generalizing s with
  | nil => simp [run]
  | cons t ts ih => simp [run, ih]

theorem run_trans {exportPrefix : String} {s middle last : Scan} {front back : List Token}
    {first later : List Signature} (hfront : s.run exportPrefix front = .ok (middle, first))
    (hback : middle.run exportPrefix back = .ok (last, later)) :
    s.run exportPrefix (front ++ back) = .ok (last, first ++ later) := by
  rw [run_append, hfront, ok_bind]
  dsimp only
  rw [hback]
  rfl

/-- Outside declarations a token is passed over. -/
theorem run_pass_cons {exportPrefix : String} {s middle last : Scan} {t : Token} {ts : List Token}
    {later : List Signature} (hs : s.declaration = none) (hpass : s.pass t = middle)
    (hrest : middle.run exportPrefix ts = .ok (last, later)) :
    s.run exportPrefix (t :: ts) = .ok (last, later) := by
  have hstep : s.step exportPrefix t = .ok (middle, none) := by
    rw [step, hs, hpass]
  exact run_cons hstep hrest

/-- Inside a declaration a token that does not end it is kept. -/
theorem run_add_cons {exportPrefix : String} {scopes : List Bool} {read : List Token}
    {d added : OpenDeclaration} {last : Scan} {t : Token} {ts : List Token}
    {later : List Signature} (hopen : d.depth = 0 → endsDeclaration t = false)
    (hadd : d.add t = added)
    (hrest : (⟨scopes, t :: read, some added⟩ : Scan).run exportPrefix ts = .ok (last, later)) :
    (⟨scopes, read, some d⟩ : Scan).run exportPrefix (t :: ts) = .ok (last, later) := by
  have hend : ¬ (d.depth = 0 ∧ endsDeclaration t) := by
    rintro ⟨hdepth, hend⟩
    simp [hopen hdepth] at hend
  have hstep : (⟨scopes, read, some d⟩ : Scan).step exportPrefix t =
      .ok (⟨scopes, t :: read, some added⟩, none) := by
    simp only [step, if_neg hend, hadd]
  exact run_cons hstep hrest

/-- The scanner outside declarations, after the given tokens. -/
def outside (scopes : List Bool) (tokens : List Token) : Scan := ⟨scopes, tokens.reverse, none⟩

theorem pass_opening {t : Token} (h : t.isPunctuation '{') (scopes : List Bool)
    (tokens : List Token) :
    (outside scopes tokens).pass t =
      outside ((outside scopes tokens).opensLinkage :: scopes) (tokens ++ [t]) := by
  simp [pass, outside, h]

theorem pass_closing {t : Token} (h : t.isPunctuation '}') (scopes : List Bool)
    (tokens : List Token) :
    (outside scopes tokens).pass t = outside scopes.tail (tokens ++ [t]) := by
  simp [pass, outside, h, Token.isPunctuation_of_ne h]

theorem pass_other {t : Token} {scopes : List Bool} (hopening : t.isPunctuation '{' = false)
    (hclosing : t.isPunctuation '}' = false)
    (h : t.isWord "static" = false ∨ scopes.all id = false) (tokens : List Token) :
    (outside scopes tokens).pass t = outside scopes (tokens ++ [t]) := by
  have hstatic : (t.isWord "static" && scopes.all id) = false := by
    rcases h with h | h <;> simp [h]
  simp [pass, outside, atTopLevel, hopening, hclosing, hstatic]

theorem pass_static {t : Token} (h : t.isWord "static") {scopes : List Bool}
    (hscopes : scopes.all id) (tokens : List Token) :
    (outside scopes tokens).pass t = ⟨scopes, t :: tokens.reverse, some ⟨0, []⟩⟩ := by
  simp [pass, outside, atTopLevel, h, hscopes, Token.isPunctuation_of_isWord h]

theorem read_next (s : Scan) (t : Token) : (s.next t).read = t :: s.read := by
  unfold next pass
  repeat' split
  all_goals rfl

theorem read_after (s : Scan) (tokens : List Token) :
    (s.after tokens).read = tokens.reverse ++ s.read := by
  induction tokens generalizing s with
  | nil => rfl
  | cons t ts ih =>
    have hrest := ih (s.next t)
    rw [read_next] at hrest
    rw [List.reverse_cons, List.append_assoc, List.singleton_append, ← hrest]
    rfl

theorem eq_after_of_run {exportPrefix : String} {s last : Scan} {tokens : List Token}
    {signatures : List Signature} (h : s.run exportPrefix tokens = .ok (last, signatures)) :
    last = s.after tokens := by
  induction tokens generalizing s signatures with
  | nil =>
    cases h
    rfl
  | cons t ts ih =>
    rw [run, bind_eq_ok_iff] at h
    obtain ⟨⟨s', first⟩, hstep, h⟩ := h
    rw [bind_eq_ok_iff] at h
    obtain ⟨⟨last', later⟩, hrest, h⟩ := h
    rw [step_eq, map_eq_ok_iff] at hstep
    obtain ⟨_, _, hstep⟩ := hstep
    cases hstep
    cases h
    exact ih hrest

end Scan

theorem extractFrom_append (exportPrefix : String) (s : Scan) (front back : List Token) :
    extractFrom exportPrefix s (front ++ back) = do
      let (s, first) ← s.run exportPrefix front
      let later ← extractFrom exportPrefix s back
      return first ++ later := by
  induction front generalizing s with
  | nil => simp [Scan.run]
  | cons t ts ih =>
    simp only [List.cons_append, extractFrom, Scan.run, ih, bind_assoc, pure_bind,
      List.append_assoc]

theorem extractFrom_append_eq_ok_iff {exportPrefix : String} {s : Scan} {front back : List Token}
    {signatures : List Signature} :
    extractFrom exportPrefix s (front ++ back) = .ok signatures ↔
      ∃ middle first later, s.run exportPrefix front = .ok (middle, first) ∧
        extractFrom exportPrefix middle back = .ok later ∧ signatures = first ++ later := by
  rw [extractFrom_append, bind_eq_ok_iff]
  constructor
  · rintro ⟨⟨middle, first⟩, hfront, hback⟩
    obtain ⟨later, hlater, heq⟩ := bind_eq_ok_iff.mp hback
    exact ⟨middle, first, later, hfront, hlater, (Except.ok.inj heq).symm⟩
  · rintro ⟨middle, first, later, hfront, hlater, rfl⟩
    exact ⟨(middle, first), hfront, bind_eq_ok_iff.mpr ⟨later, hlater, rfl⟩⟩

theorem extractFrom_nil {exportPrefix : String} {s : Scan} (h : s.declaration = none) :
    extractFrom exportPrefix s [] = .ok [] := by
  rw [extractFrom, h]

/-- A stretch that ends outside declarations, read to the end of the stream. -/
theorem extractFrom_of_run {exportPrefix : String} {s last : Scan} {tokens : List Token}
    {signatures : List Signature} (h : s.run exportPrefix tokens = .ok (last, signatures))
    (hlast : last.declaration = none) :
    extractFrom exportPrefix s tokens = .ok signatures := by
  have hnil : extractFrom exportPrefix last [] = .ok [] := extractFrom_nil hlast
  calc
    extractFrom exportPrefix s tokens = extractFrom exportPrefix s (tokens ++ []) := by
      rw [List.append_nil]
    _ = .ok (signatures ++ []) :=
      extractFrom_append_eq_ok_iff.mpr ⟨last, signatures, [], h, hnil, rfl⟩
    _ = .ok signatures := by rw [List.append_nil]

theorem eq_nil_of_extractFrom_nil {exportPrefix : String} {s : Scan} {found : List Signature}
    (h : extractFrom exportPrefix s [] = .ok found) : found = [] := by
  rw [extractFrom] at h
  cases hdeclaration : s.declaration with
  | none =>
    rw [hdeclaration] at h
    exact (Except.ok.inj h).symm
  | some d =>
    rw [hdeclaration] at h
    obtain ⟨signature, hread, rfl⟩ := map_eq_ok_iff.mp h
    rw [readDeclaration_unended hread]
    rfl

theorem tokens_of_extractSignatures {exportPrefix source : String} {signatures : List Signature}
    (h : extractSignatures exportPrefix source = .ok signatures) :
    ∃ tokens, tokenize source = .ok tokens ∧
      extractFrom exportPrefix .initial tokens = .ok signatures := by
  cases htokens : tokenize source with
  | error e =>
    rw [extractSignatures, htokens] at h
    cases h
  | ok tokens =>
    rw [extractSignatures, htokens] at h
    exact ⟨tokens, rfl, h⟩

end ExportTable.Extraction
