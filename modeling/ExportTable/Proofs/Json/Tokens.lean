import ExportTable.Json.Token
import Mathlib.Data.List.TakeDrop

/-!
# The tokens of a text, one after the other

No token is empty, so a text has at most as many tokens as characters, and the tokens of a text are
the first one and the tokens of the text after it.
-/

namespace ExportTable.Json

/-! ## Tokens take characters -/

theorem length_lt_of_scanParts {cs rest : List Char} {parts : List LiteralPart}
    (h : scanParts cs = some (parts, rest)) : rest.length < cs.length := by
  induction cs using scanParts.induct generalizing parts with
  | case1 => cases h
  | case2 after =>
    rw [scanParts] at h
    cases h
    exact Nat.lt_succ_self _
  | case3 a b c d after ih =>
    rw [scanParts] at h
    obtain ⟨_, _, h⟩ := Option.bind_eq_some_iff.mp h
    obtain ⟨_, hafter, heq⟩ := Option.bind_eq_some_iff.mp h
    cases heq
    have hshorter := ih hafter
    simp only [List.length_cons]
    omega
  | case4 c after hunit ih =>
    rw [scanParts] at h
    · obtain ⟨_, _, h⟩ := Option.bind_eq_some_iff.mp h
      obtain ⟨_, hafter, heq⟩ := Option.bind_eq_some_iff.mp h
      cases heq
      have hshorter := ih hafter
      simp only [List.length_cons]
      omega
    · exact hunit
  | case5 c after hquote hunit hescape hspace =>
    rw [scanParts, if_pos hspace] at h
    · cases h
    all_goals assumption
  | case6 c after hquote hunit hescape hspace ih =>
    rw [scanParts, if_neg hspace] at h
    · obtain ⟨_, hafter, heq⟩ := Option.bind_eq_some_iff.mp h
      cases heq
      exact Nat.lt_succ_of_lt (ih hafter)
    all_goals assumption

theorem append_spanDigits (cs : List Char) : (spanDigits cs).1 ++ (spanDigits cs).2 = cs := by
  rw [spanDigits, List.span_eq_takeWhile_dropWhile]
  exact List.takeWhile_append_dropWhile

theorem length_spanDigits (cs : List Char) :
    (spanDigits cs).1.length + (spanDigits cs).2.length = cs.length := by
  rw [← List.length_append, append_spanDigits]

theorem length_le_of_scanFraction {cs rest : List Char} {fraction : Option (List Char)}
    (h : scanFraction cs = some (fraction, rest)) : rest.length ≤ cs.length := by
  unfold scanFraction at h
  split at h
  next after =>
    have hlength := length_spanDigits after
    split at h
    next => cases h
    next heq =>
      rw [heq] at hlength
      cases h
      simp only [List.length_cons] at *
      omega
  next =>
    cases h
    exact Nat.le_refl _

theorem length_le_of_scanExponentDigits {negative : Bool} {cs rest : List Char}
    {exponent : Option Exponent} (h : scanExponentDigits negative cs = some (exponent, rest)) :
    rest.length ≤ cs.length := by
  have hlength := length_spanDigits cs
  unfold scanExponentDigits at h
  split at h
  next => cases h
  next heq =>
    rw [heq] at hlength
    cases h
    dsimp only at hlength
    omega

theorem length_le_of_scanExponent {cs rest : List Char} {exponent : Option Exponent}
    (h : scanExponent cs = some (exponent, rest)) : rest.length ≤ cs.length := by
  unfold scanExponent at h
  split at h
  next c after =>
    split at h
    · split at h
      all_goals
        have hdigits := length_le_of_scanExponentDigits h
        simp only [List.length_cons] at *
        omega
    · cases h
      exact Nat.le_refl _
  next =>
    cases h
    exact Nat.le_refl _

theorem length_lt_of_scanUnsigned {negative : Bool} {cs rest : List Char} {n : Numeral}
    (h : scanUnsigned negative cs = some (n, rest)) : rest.length < cs.length := by
  have hlength := length_spanDigits cs
  unfold scanUnsigned at h
  split at h
  next => cases h
  next => cases h
  next whole after hne _ heq =>
    rw [heq] at hlength
    have hpositive : 0 < whole.length := List.length_pos_iff.mpr hne
    split at h
    next => cases h
    next hfraction =>
      split at h
      next => cases h
      next hexponent =>
        cases h
        have hle := length_le_of_scanFraction hfraction
        have hle' := length_le_of_scanExponent hexponent
        dsimp only at hlength
        omega

theorem length_lt_of_scanNumeral {cs rest : List Char} {n : Numeral}
    (h : scanNumeral cs = some (n, rest)) : rest.length < cs.length := by
  unfold scanNumeral at h
  split at h
  next => exact Nat.lt_succ_of_lt (length_lt_of_scanUnsigned h)
  next => exact length_lt_of_scanUnsigned h

/-- No token is empty. -/
theorem length_lt_of_scanToken? {cs rest : List Char} {token : Token}
    (h : scanToken? cs = some (token, rest)) : rest.length < cs.length := by
  unfold scanToken? at h
  split at h
  next after =>
    obtain ⟨_, hliteral, heq⟩ := Option.map_eq_some_iff.mp h
    obtain ⟨_, hparts, heq'⟩ := Option.map_eq_some_iff.mp hliteral
    cases heq
    cases heq'
    exact Nat.lt_succ_of_lt (length_lt_of_scanParts hparts)
  case h_5 =>
    obtain ⟨_, hnumeral, heq⟩ := Option.map_eq_some_iff.mp h
    cases heq
    exact length_lt_of_scanNumeral hnumeral
  all_goals
    cases h
    simp only [List.length_cons]
    omega

/-! ## The first token -/

/-- A bound on the number of tokens does not matter if it is as long as the text. -/
theorem tokensWithin_congr {fuel other : Nat} {cs : List Char} (h : cs.length ≤ fuel)
    (hother : cs.length ≤ other) : tokensWithin fuel cs = tokensWithin other cs := by
  induction fuel generalizing cs other with
  | zero =>
    rw [List.length_eq_zero_iff.mp (Nat.le_zero.mp h)]
    cases other <;> rfl
  | succ fuel ih =>
    cases cs with
    | nil => cases other <;> rfl
    | cons c cs =>
      cases other with
      | zero => cases hother
      | succ other =>
        have hrest : ∀ rest : List Char, rest.length < (c :: cs).length →
            tokensWithin fuel rest = tokensWithin other rest := by
          intro rest hlt
          rw [List.length_cons] at h hother hlt
          exact ih (by omega) (by omega)
        have hcs := hrest cs (Nat.lt_succ_self _)
        rw [tokensWithin, tokensWithin]
        split
        · exact hcs
        · split
          · rw [hcs]
          · split
            next hscan => rw [hrest _ (length_lt_of_scanToken? hscan)]
            next => rfl

theorem tokensWithin_eq {fuel : Nat} {cs : List Char} (h : cs.length ≤ fuel) :
    tokensWithin fuel cs = tokens cs :=
  tokensWithin_congr h (Nat.le_refl _)

@[simp]
theorem tokens_nil : tokens [] = [] := rfl

theorem tokens_gap {c : Char} (h : isGap c) (cs : List Char) : tokens (c :: cs) = tokens cs := by
  rw [tokens, List.length_cons, tokensWithin]
  exact if_pos h

theorem tokens_mark {c : Char} {token : Token} (hgap : ¬ isGap c) (h : mark? c = some token)
    (cs : List Char) : tokens (c :: cs) = token :: tokens cs := by
  rw [tokens, List.length_cons, tokensWithin, if_neg hgap, h]
  rfl

theorem tokens_scan {c : Char} {cs rest : List Char} {token : Token} (hgap : ¬ isGap c)
    (hmark : mark? c = none) (h : scanToken? (c :: cs) = some (token, rest)) :
    tokens (c :: cs) = token :: tokens rest := by
  have hlt := length_lt_of_scanToken? h
  rw [tokens, List.length_cons, tokensWithin, if_neg hgap, hmark, h]
  dsimp only
  rw [tokensWithin_eq (Nat.le_of_lt_succ hlt)]

end ExportTable.Json
