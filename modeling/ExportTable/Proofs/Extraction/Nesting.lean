import ExportTable.Proofs.Extraction.Scanning

/-!
# Matching brackets

`Nested` describes tokens whose brackets of one kind match, and what may stand outside all of
them. Such tokens leave the scanner's count of brackets as it was: a declaration whose parentheses
match is read to its end and stays open, a body whose braces match is read below the top level,
and a parameter list is closed by the parenthesis that belongs to its first one. The count itself
is `openParentheses`, which also speaks about parentheses that do not match.
-/

namespace ExportTable.Extraction

open CSource

/-- Tokens whose brackets match, with only allowed tokens outside all brackets. -/
inductive Nested (opening closing : Char) : (Token → Prop) → List Token → Prop
  | nil {allowed : Token → Prop} : Nested opening closing allowed []
  | token {allowed : Token → Prop} {t : Token} {ts : List Token}
      (hopening : t.isPunctuation opening = false) (hclosing : t.isPunctuation closing = false)
      (hallowed : allowed t) (hrest : Nested opening closing allowed ts) :
      Nested opening closing allowed (t :: ts)
  | group {allowed : Token → Prop} {first last : Token} {inner ts : List Token}
      (hfirst : first.isPunctuation opening) (hinner : Nested opening closing (fun _ ↦ True) inner)
      (hlast : last.isPunctuation closing) (hrest : Nested opening closing allowed ts) :
      Nested opening closing allowed (first :: (inner ++ last :: ts))

abbrev Balanced (opening closing : Char) : List Token → Prop :=
  Nested opening closing fun _ ↦ True

namespace Nested

variable {opening closing : Char} {allowed : Token → Prop}

theorem append {front back : List Token} (hfront : Nested opening closing allowed front)
    (hback : Nested opening closing allowed back) :
    Nested opening closing allowed (front ++ back) := by
  induction hfront with
  | nil => exact hback
  | token hopening hclosing hallowed _ ih => exact .token hopening hclosing hallowed (ih hback)
  | group hfirst hinner hlast _ _ ih =>
    rw [List.cons_append, List.append_assoc]
    exact .group hfirst hinner hlast (ih hback)

theorem of_forall {tokens : List Token} (h : ∀ t ∈ tokens,
    t.isPunctuation opening = false ∧ t.isPunctuation closing = false ∧ allowed t) :
    Nested opening closing allowed tokens := by
  induction tokens with
  | nil => exact .nil
  | cons t ts ih =>
    obtain ⟨⟨hopening, hclosing, hallowed⟩, hts⟩ := List.forall_mem_cons.mp h
    exact .token hopening hclosing hallowed (ih hts)

end Nested

/-! ## Parentheses -/

/-- What matches is skipped in the search for the parenthesis that closes an earlier one. -/
theorem closeParentheses_append {allowed : Token → Prop} {inner : List Token}
    (h : Nested '(' ')' allowed inner) (depth : Nat) (rest : List Token) :
    closeParentheses (depth + 1) (inner ++ rest) =
      (closeParentheses (depth + 1) rest).map fun (front, back) ↦ (inner ++ front, back) := by
  induction h generalizing depth rest with
  | nil => simp
  | token hopening hclosing _ _ ih =>
    simp [closeParentheses, hopening, hclosing, ih, Function.comp_def]
  | group hfirst _ hlast _ ihinner ih =>
    have hlast' := Token.isPunctuation_of_ne hlast (show ')' ≠ '(' by decide)
    simp [closeParentheses, hfirst, hlast, hlast', ihinner, ih, Function.comp_def]

theorem closeParentheses_group {first last : Token} {inner : List Token}
    (hfirst : first.isPunctuation '(') (hinner : Balanced '(' ')' inner)
    (hlast : last.isPunctuation ')') :
    closeParentheses 0 (first :: (inner ++ [last])) = some (first :: (inner ++ [last]), []) := by
  have hlast' := Token.isPunctuation_of_ne hlast (show ')' ≠ '(' by decide)
  have hrest := closeParentheses_append hinner 0 [last]
  simp only [closeParentheses, hfirst, if_true, hrest]
  simp [hlast, hlast']

/-- The number of open parentheses after more tokens; a closing one too many counts for nothing. -/
def openParentheses (depth : Nat) (tokens : List Token) : Nat := tokens.foldl openAfter depth

/-- No token outside parentheses ends the declaration. -/
def StaysOpen : Nat → List Token → Prop
  | _, [] => True
  | depth, t :: ts => (depth = 0 → endsDeclaration t = false) ∧ StaysOpen (openAfter depth t) ts

instance decidableStaysOpen : (depth : Nat) → (tokens : List Token) →
    Decidable (StaysOpen depth tokens)
  | _, [] => .isTrue trivial
  | depth, t :: ts =>
    have := decidableStaysOpen (openAfter depth t) ts
    inferInstanceAs (Decidable
      ((depth = 0 → endsDeclaration t = false) ∧ StaysOpen (openAfter depth t) ts))

theorem openParentheses_cons (depth : Nat) (t : Token) (ts : List Token) :
    openParentheses depth (t :: ts) = openParentheses (openAfter depth t) ts := rfl

theorem openParentheses_append (depth : Nat) (front back : List Token) :
    openParentheses depth (front ++ back) = openParentheses (openParentheses depth front) back :=
  List.foldl_append

theorem openParentheses_zero {tokens : List Token}
    (h : ∀ t ∈ tokens, t.isPunctuation '(' = false) : openParentheses 0 tokens = 0 := by
  induction tokens with
  | nil => rfl
  | cons t ts ih =>
    obtain ⟨ht, hts⟩ := List.forall_mem_cons.mp h
    have hafter : openAfter 0 t = 0 := by simp [openAfter, ht]
    rw [openParentheses_cons, hafter, ih hts]

theorem staysOpen_append {depth : Nat} {front back : List Token} :
    StaysOpen depth (front ++ back) ↔
      StaysOpen depth front ∧ StaysOpen (openParentheses depth front) back := by
  induction front generalizing depth with
  | nil => simp [StaysOpen, openParentheses]
  | cons t ts ih => simp [StaysOpen, ih, openParentheses_cons, and_assoc]

theorem Nested.openParentheses_eq {allowed : Token → Prop} {tokens : List Token}
    (h : Nested '(' ')' allowed tokens) (depth : Nat) : openParentheses depth tokens = depth := by
  induction h generalizing depth with
  | nil => rfl
  | token hopening hclosing _ _ ih =>
    rw [openParentheses_cons, openAfter_other hopening hclosing, ih depth]
  | group hfirst _ hlast _ ihinner ih =>
    rw [openParentheses_cons, openAfter_opening hfirst, openParentheses_append,
      ihinner (depth + 1), openParentheses_cons, openAfter_closing hlast, Nat.add_sub_cancel,
      ih depth]

theorem Nested.staysOpen {allowed : Token → Prop} {tokens : List Token}
    (h : Nested '(' ')' allowed tokens) {depth : Nat}
    (hallowed : depth = 0 → ∀ t, allowed t → endsDeclaration t = false) :
    StaysOpen depth tokens := by
  induction h generalizing depth with
  | nil => exact trivial
  | token hopening hclosing hthis _ ih =>
    refine ⟨fun hdepth ↦ hallowed hdepth _ hthis, ?_⟩
    rw [openAfter_other hopening hclosing]
    exact ih hallowed
  | group hfirst hinner hlast _ ihinner ih =>
    refine ⟨fun _ ↦ by simp [endsDeclaration, Token.isPunctuation_of_ne hfirst], ?_⟩
    rw [openAfter_opening hfirst, staysOpen_append, hinner.openParentheses_eq]
    refine ⟨ihinner (by simp), by simp, ?_⟩
    rw [openAfter_closing hlast]
    exact ih hallowed

/-- A declaration that stays open is kept, and its parentheses are counted. -/
theorem run_open {tokens : List Token} {d : OpenDeclaration} (h : StaysOpen d.depth tokens)
    (exportPrefix : String) (scopes : List Bool) (read : List Token) :
    (⟨scopes, read, some d⟩ : Scan).run exportPrefix tokens =
      .ok (⟨scopes, tokens.reverse ++ read,
        some ⟨openParentheses d.depth tokens, tokens.reverse ++ d.tokens⟩⟩, []) := by
  induction tokens generalizing d read with
  | nil => rfl
  | cons t ts ih =>
    obtain ⟨hend, hts⟩ := h
    have hadd : d.add t = ⟨openAfter d.depth t, t :: d.tokens⟩ := rfl
    have hrun := Scan.run_add_cons hend hadd (ih hts (t :: read))
    simpa [openParentheses_cons] using hrun

/-- From `static` at the top level to the token that ends the declaration. -/
theorem run_declaration (exportPrefix : String) {scopes : List Bool} (hscopes : scopes.all id)
    (before : List Token) {keyword ending : Token} {declared : List Token}
    (hkeyword : keyword.isWord "static") (hstays : StaysOpen 0 declared)
    (hcount : openParentheses 0 declared = 0) (hending : endsDeclaration ending) :
    (Scan.outside scopes before).run exportPrefix (keyword :: (declared ++ [ending])) =
      (readDeclaration exportPrefix declared (some ending)).map fun found ↦
        ((Scan.outside scopes (before ++ keyword :: declared)).pass ending, found.toList) := by
  have hstep : (Scan.outside scopes before).step exportPrefix keyword =
      .ok (⟨scopes, keyword :: before.reverse, some ⟨0, []⟩⟩, none) := by
    rw [← Scan.pass_static hkeyword hscopes before]
    rfl
  have hopen := run_open (d := ⟨0, []⟩) hstays exportPrefix scopes (keyword :: before.reverse)
  rw [hcount, List.append_nil] at hopen
  -- Whether a token opens a scope depends on the tokens read and not on the open declaration.
  have hpass : (⟨scopes, declared.reverse ++ keyword :: before.reverse,
      some ⟨0, declared.reverse⟩⟩ : Scan).pass ending =
      (Scan.outside scopes (before ++ keyword :: declared)).pass ending := by
    have hread : (before ++ keyword :: declared).reverse =
        declared.reverse ++ keyword :: before.reverse := by
      simp
    rw [Scan.outside, hread]
    rfl
  have hend : (⟨scopes, declared.reverse ++ keyword :: before.reverse,
      some ⟨0, declared.reverse⟩⟩ : Scan).step exportPrefix ending =
      (readDeclaration exportPrefix declared (some ending)).map fun found ↦
        ((Scan.outside scopes (before ++ keyword :: declared)).pass ending, found) := by
    rw [Scan.step]
    dsimp only
    rw [if_pos ⟨rfl, hending⟩, List.reverse_reverse, hpass]
  rw [Scan.run, hstep, ok_bind]
  dsimp only
  rw [Scan.run_append, hopen, ok_bind]
  dsimp only
  rw [Scan.run, hend]
  cases readDeclaration exportPrefix declared (some ending) with
  | error e => rfl
  | ok found =>
    cases found with
    | none => rfl
    | some signature => rfl

/-- A parenthesis is closed where the number of open ones comes back to zero. -/
theorem closeParentheses_of_openParentheses {depth : Nat} (hdepth : 0 < depth)
    {inside : List Token} (h : openParentheses depth inside = 0) (rest : List Token) :
    ∃ front back, closeParentheses depth (inside ++ rest) = some (front, back ++ rest) := by
  induction inside generalizing depth with
  | nil => exact absurd h (Nat.pos_iff_ne_zero.mp hdepth)
  | cons t ts ih =>
    rw [List.cons_append, closeParentheses_cons]
    split
    next => exact ⟨[t], ts, rfl⟩
    next hmore =>
      obtain ⟨front, back, hclose⟩ := ih (openAfter_pos hdepth hmore) h
      exact ⟨t :: front, back, by rw [hclose]; rfl⟩

/-! ## Braces -/

/-- Below the top level, a body whose braces match is passed over, whatever it declares. -/
theorem run_body {allowed : Token → Prop} {body : List Token} (h : Nested '{' '}' allowed body)
    (exportPrefix : String) {scopes : List Bool} (hscopes : scopes.all id = false)
    (before : List Token) :
    (Scan.outside scopes before).run exportPrefix body =
      .ok (Scan.outside scopes (before ++ body), []) := by
  induction h generalizing scopes before with
  | nil => rw [List.append_nil]; rfl
  | @token _ t ts hopening hclosing _ _ ih =>
    have hpass := Scan.pass_other hopening hclosing (.inr hscopes) before
    have hrun := Scan.run_pass_cons rfl hpass (ih hscopes (before ++ [t]))
    simpa using hrun
  | @group _ first last inner ts hfirst _ hlast _ ihinner ih =>
    have hinner := ihinner
      (show ((Scan.outside scopes before).opensLinkage :: scopes).all id = false by simp [hscopes])
      (before ++ [first])
    have hrest := ih hscopes (before ++ [first] ++ inner ++ [last])
    have hrun := Scan.run_pass_cons rfl (Scan.pass_opening hfirst scopes before)
      (Scan.run_trans hinner (Scan.run_pass_cons rfl (Scan.pass_closing hlast _ _) hrest))
    simpa using hrun

end ExportTable.Extraction
