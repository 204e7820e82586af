import ExportTable.Proofs.Result
import ExportTable.Signature.Extraction
import Mathlib.Data.List.Basic

/-!
# What a declaration exports

A declaration with parentheses is read at the identifier before the first one, and nowhere else. If
that identifier lacks the export prefix, or if no body follows, the declaration exports nothing;
otherwise it is read as a definition, which succeeds only if a name, a return type and one
parameter list are all that it has.
-/

namespace ExportTable.Extraction

open CSource

/-! ## Declared names -/

theorem declarator?_append {front back : List Token} {opening : Token}
    (hfront : ∀ t ∈ front, t.isPunctuation '(' = false) (hopening : opening.isPunctuation '(') :
    declarator? (front ++ opening :: back) = front.getLast?.bind fun name ↦
      if name.kind = .identifier then some ⟨front.dropLast, name, opening :: back⟩ else none := by
  have hbefore : ∀ t ∈ front, (!t.isPunctuation '(') = true := by
    intro t ht
    rw [hfront t ht]
    rfl
  unfold declarator?
  rw [List.takeWhile_append_of_pos hbefore, List.dropWhile_append_of_pos hbefore]
  simp only [List.takeWhile_cons, List.dropWhile_cons, hopening, Bool.not_true, Bool.false_eq_true,
    if_false, List.append_nil]
  cases front.getLast? <;> rfl

theorem declarator?_of_first {front back : List Token} {name opening : Token}
    (hfront : ∀ t ∈ front, t.isPunctuation '(' = false) (hname : name.kind = .identifier)
    (hopening : opening.isPunctuation '(') :
    declarator? (front ++ name :: opening :: back) = some ⟨front, name, opening :: back⟩ := by
  have hbefore : ∀ t ∈ front ++ [name], t.isPunctuation '(' = false := by
    intro t ht
    rcases List.mem_append.mp ht with ht | ht
    · exact hfront t ht
    · rw [List.mem_singleton.mp ht]
      exact Token.isPunctuation_of_kind (by simp [hname]) '('
  have hsplit : front ++ name :: opening :: back = (front ++ [name]) ++ opening :: back := by simp
  rw [hsplit, declarator?_append hbefore hopening]
  simp [hname]

/-- A list that holds a parenthesis, cut at the first one. -/
theorem exists_first_parenthesis {tokens : List Token} (h : tokens.any (·.isPunctuation '(')) :
    ∃ front opening back, tokens = front ++ opening :: back ∧
      (∀ t ∈ front, t.isPunctuation '(' = false) ∧ opening.isPunctuation '(' := by
  induction tokens with
  | nil => cases h
  | cons t ts ih =>
    cases ht : t.isPunctuation '(' with
    | true => exact ⟨[], t, ts, rfl, by simp, ht⟩
    | false =>
      obtain ⟨front, opening, back, rfl, hfront, hopening⟩ := ih (by simpa [ht] using h)
      exact ⟨t :: front, opening, back, rfl, List.forall_mem_cons.mpr ⟨ht, hfront⟩, hopening⟩

/-! ## Parentheses -/

/-- The number of open parentheses after one more token. -/
def openAfter (depth : Nat) (t : Token) : Nat :=
  if t.isPunctuation '(' then depth + 1
  else if t.isPunctuation ')' then depth - 1
  else depth

theorem openAfter_opening {t : Token} (h : t.isPunctuation '(') (depth : Nat) :
    openAfter depth t = depth + 1 := by
  simp [openAfter, h]

theorem openAfter_closing {t : Token} (h : t.isPunctuation ')') (depth : Nat) :
    openAfter depth t = depth - 1 := by
  simp [openAfter, h, Token.isPunctuation_of_ne h]

theorem openAfter_other {t : Token} (hopening : t.isPunctuation '(' = false)
    (hclosing : t.isPunctuation ')' = false) (depth : Nat) : openAfter depth t = depth := by
  simp [openAfter, hopening, hclosing]

theorem openAfter_pos {depth : Nat} {t : Token} (hdepth : 0 < depth)
    (h : ¬ (t.isPunctuation ')' ∧ depth ≤ 1)) : 0 < openAfter depth t := by
  unfold openAfter
  split
  · omega
  · split
    next hclosing =>
      have hlarge : ¬ depth ≤ 1 := fun hsmall ↦ h ⟨hclosing, hsmall⟩
      omega
    next => exact hdepth

/-- The search stops at a closing parenthesis where at most one is open, and goes on behind every
other token. -/
theorem closeParentheses_cons (depth : Nat) (t : Token) (ts : List Token) :
    closeParentheses depth (t :: ts) =
      if t.isPunctuation ')' ∧ depth ≤ 1 then some ([t], ts)
      else (closeParentheses (openAfter depth t) ts).map fun (inner, rest) ↦ (t :: inner, rest) := by
  rw [closeParentheses]
  cases hopening : t.isPunctuation '(' with
  | true =>
    have hclosing := Token.isPunctuation_of_ne hopening (show '(' ≠ ')' by decide)
    simp [hclosing, openAfter_opening hopening]
  | false =>
    cases hclosing : t.isPunctuation ')' with
    | true => simp [openAfter_closing hclosing]
    | false => simp [openAfter_other hopening hclosing]

theorem closeParentheses_cons_eq_some {depth : Nat} {t : Token} {ts inner rest : List Token}
    (h : closeParentheses depth (t :: ts) = some (inner, rest)) :
    ((t.isPunctuation ')' ∧ depth ≤ 1) ∧ inner = [t] ∧ rest = ts) ∨
      ¬ (t.isPunctuation ')' ∧ depth ≤ 1) ∧ ∃ front, inner = t :: front ∧
        closeParentheses (openAfter depth t) ts = some (front, rest) := by
  rw [closeParentheses_cons] at h
  split at h
  next hlast =>
    cases h
    exact .inl ⟨hlast, rfl, rfl⟩
  next hmore =>
    obtain ⟨⟨front, back⟩, hclose, heq⟩ := Option.map_eq_some_iff.mp h
    cases heq
    exact .inr ⟨hmore, front, rfl, hclose⟩

theorem eq_append_of_closeParentheses {depth : Nat} {tokens inner rest : List Token}
    (h : closeParentheses depth tokens = some (inner, rest)) : tokens = inner ++ rest := by
  induction tokens generalizing depth inner with
  | nil => cases h
  | cons t ts ih =>
    rcases closeParentheses_cons_eq_some h with ⟨_, rfl, rfl⟩ | ⟨_, front, rfl, hclose⟩
    · rfl
    · rw [ih hclose, List.cons_append]

/-! ## Definitions -/

theorem readDefinition_eq_ok_iff {exportPrefix name : String} {d : Declarator} {f : Signature} :
    readDefinition exportPrefix name d = .ok f ↔
      name ≠ "" ∧ d.returnType ≠ [] ∧ d.rest.head?.any (·.isPunctuation '(') ∧
        closeParentheses 0 d.rest = some (d.rest, []) ∧
        f = ⟨render d.returnType, name, render d.rest⟩ := by
  unfold readDefinition
  by_cases hname : name = ""
  · simp [hname]
  by_cases hreturn : d.returnType = []
  · simp [hname, hreturn]
  by_cases hhead : d.rest.head?.any (·.isPunctuation '(')
  · rw [if_neg hname, if_neg hreturn, if_neg (by simp [hhead])]
    split
    next hclose => simp [hclose]
    next hclose => simp [hclose]
    next parameters hclose =>
      have hrest := eq_append_of_closeParentheses hclose
      rw [List.append_nil] at hrest
      subst hrest
      constructor
      · intro h
        exact ⟨hname, hreturn, hhead, hclose, (Except.ok.inj h).symm⟩
      · rintro ⟨_, _, _, _, rfl⟩
        rfl
  · simp [hname, hreturn, hhead]

/-- Without a body nothing is exported. -/
theorem readDeclaration_of_ending {t : Token} (ht : t.isPunctuation '{' = false)
    (exportPrefix : String) (declaration : List Token) :
    readDeclaration exportPrefix declaration (some t) = .ok none := by
  unfold readDeclaration
  split
  · rfl
  · split
    · rfl
    · simp [ht]

theorem readDeclaration_of_exported {exportPrefix name : String} {declaration : List Token}
    {d : Declarator} {t : Token} (hd : declarator? declaration = some d)
    (hname : d.name.text = exportPrefix ++ "_" ++ name) (ht : t.isPunctuation '{') :
    readDeclaration exportPrefix declaration (some t) =
      (readDefinition exportPrefix name d).map some := by
  have hstart : (exportPrefix ++ "_").toList.isPrefixOf? d.name.text.toList = some name.toList := by
    rw [List.isPrefixOf?_eq_some_iff_append_eq, hname, ← String.toList_append]
  rw [readDeclaration, hd]
  dsimp only
  rw [hstart]
  simp [ht]

theorem readDeclaration_of_unexported {exportPrefix : String} {declaration : List Token}
    {d : Declarator} (hd : declarator? declaration = some d)
    (hname : ¬ (exportPrefix ++ "_").toList <+: d.name.text.toList) (ending : Option Token) :
    readDeclaration exportPrefix declaration ending = .ok none := by
  have hstart : (exportPrefix ++ "_").toList.isPrefixOf? d.name.text.toList = none := by
    cases h : (exportPrefix ++ "_").toList.isPrefixOf? d.name.text.toList with
    | none => rfl
    | some rest => exact absurd ⟨rest, List.isPrefixOf?_eq_some_iff_append_eq.mp h⟩ hname
  rw [readDeclaration, hd]
  dsimp only
  rw [hstart]

/-- A declaration that the text does not end gives no function. -/
theorem readDeclaration_unended {exportPrefix : String} {declaration : List Token}
    {found : Option Signature} (h : readDeclaration exportPrefix declaration none = .ok found) :
    found = none := by
  unfold readDeclaration at h
  split at h
  · cases h
    rfl
  · split at h
    · cases h
      rfl
    · dsimp only at h
      split at h
      · cases h
      · cases h
        rfl

end ExportTable.Extraction
