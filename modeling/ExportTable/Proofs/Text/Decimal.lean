import ExportTable.Proofs.Text.Lines
import ExportTable.Text.Decimal
import Mathlib.Data.List.Induction

/-!
# Decimal texts

A number has one decimal text without needless zeros in front, and all its other decimal texts have
zeros before that one. So what is read as an unsigned decimal is told exactly: an optional plus sign,
any number of zeros, and the digits of the number that is read.
-/

namespace ExportTable.Text

/-- The number of a digit, which has this digit for its text. -/
theorem exists_toDigits_eq {c : Char} (h : c.isDigit) :
    ∃ n < 10, c.toNat - '0'.toNat = n ∧ Nat.toDigits 10 n = [c] := by
  have hrange : 48 ≤ c.toNat ∧ c.toNat ≤ 57 := by
    rw [Char.isDigit, Bool.and_eq_true, decide_eq_true_iff, decide_eq_true_iff] at h
    exact h
  have hsmall : c.toNat - 48 < 10 := by omega
  have hchar : (c.toNat - 48).digitChar = c := by
    apply Char.toNat_inj.mp
    rw [Nat.toNat_digitChar_of_lt_ten hsmall]
    omega
  exact ⟨c.toNat - 48, hsmall, rfl, by rw [Nat.toDigits_of_lt_base hsmall, hchar]⟩

/-- Digits are those of their number after some zeros. -/
theorem exists_zeros_append_toDigits {cs : List Char} (hne : cs ≠ [])
    (hdigits : ∀ c ∈ cs, c.isDigit) :
    ∃ zeros, cs = List.replicate zeros '0' ++ Nat.toDigits 10 (Nat.ofDigitChars 10 cs 0) := by
  induction cs using List.reverseRecOn with
  | nil => contradiction
  | append_singleton front c ih =>
    obtain ⟨last, hsmall, hvalue, hlast⟩ := exists_toDigits_eq (hdigits c (by simp))
    rw [Nat.ofDigitChars_append, Nat.ofDigitChars_cons, Nat.ofDigitChars_nil, hvalue]
    by_cases hfront : front = []
    · subst hfront
      exact ⟨0, by rw [Nat.ofDigitChars_nil, Nat.mul_zero, Nat.zero_add, hlast]; rfl⟩
    · obtain ⟨zeros, hzeros⟩ := ih hfront fun d hd ↦ hdigits d (by simp [hd])
      generalize Nat.ofDigitChars 10 front 0 = n at hzeros ⊢
      rcases Nat.eq_zero_or_pos n with rfl | hpositive
      · refine ⟨zeros + 1, ?_⟩
        rw [Nat.mul_zero, Nat.zero_add, hlast, hzeros, Nat.toDigits_zero, List.replicate_succ']
      · refine ⟨zeros, ?_⟩
        rw [← Nat.toDigits_append_toDigits (by decide) hpositive hsmall, hlast,
          ← List.append_assoc, ← hzeros]

/-- Digits without needless zeros in front are those of their number. -/
theorem toDigits_ofDigitChars {cs : List Char} (hne : cs ≠ []) (hdigits : ∀ c ∈ cs, c.isDigit)
    (hzero : cs.head? = some '0' → cs = ['0']) :
    Nat.toDigits 10 (Nat.ofDigitChars 10 cs 0) = cs := by
  obtain ⟨zeros, hzeros⟩ := exists_zeros_append_toDigits hne hdigits
  cases zeros with
  | zero => exact hzeros.symm
  | succ zeros =>
    rw [hzero (by rw [hzeros]; rfl)]
    rfl

theorem ofDigitChars_zeros_append (zeros n : Nat) :
    Nat.ofDigitChars 10 (List.replicate zeros '0' ++ Nat.toDigits 10 n) 0 = n := by
  rw [Nat.ofDigitChars_append, Nat.ofDigitChars_replicate_zero, Nat.mul_zero,
    Nat.ofDigitChars_ten_toDigits]

/-! ## Unsigned decimals -/

/-- A decimal text of a number, with or without a plus sign. -/
def unsignedText (plus : Bool) (zeros n : Nat) : List Char :=
  (if plus then ['+'] else []) ++ (List.replicate zeros '0' ++ Nat.toDigits 10 n)

variable {zeros n : Nat} {c : Char}

theorem isDigit_of_mem_zeros_append (h : c ∈ List.replicate zeros '0' ++ Nat.toDigits 10 n) :
    c.isDigit := by
  rcases List.mem_append.mp h with hzero | hdigit
  · rw [List.eq_of_mem_replicate hzero]
    rfl
  · exact Nat.isDigit_of_mem_toDigits (by decide) (by decide) hdigit

theorem zeros_append_ne_nil : List.replicate zeros '0' ++ Nat.toDigits 10 n ≠ [] :=
  List.append_ne_nil_of_right_ne_nil _ Nat.toDigits_ne_nil

theorem mem_unsignedText {plus : Bool} (h : c ∈ unsignedText plus zeros n) :
    c = '+' ∨ c.isDigit := by
  rcases List.mem_append.mp h with hsign | hdigit
  · cases plus with
    | false => cases hsign
    | true => exact .inl (List.mem_singleton.mp hsign)
  · exact .inr (isDigit_of_mem_zeros_append hdigit)

theorem unsignedText_ne_nil {plus : Bool} : unsignedText plus zeros n ≠ [] :=
  List.append_ne_nil_of_right_ne_nil _ zeros_append_ne_nil

theorem unsigned?_eq_some_iff {bound : Nat} {cs : List Char} :
    unsigned? bound cs = some n ↔ n < bound ∧ ∃ plus zeros, cs = unsignedText plus zeros n := by
  have hread (ds : List Char) :
      (if ds ≠ [] ∧ ds.all Char.isDigit ∧ Nat.ofDigitChars 10 ds 0 < bound then
        some (Nat.ofDigitChars 10 ds 0) else none) = some n ↔
      n < bound ∧ ∃ zeros, ds = List.replicate zeros '0' ++ Nat.toDigits 10 n := by
    constructor
    · intro h
      split at h
      · next hds =>
        obtain ⟨hne, hdigits, hbound⟩ := hds
        obtain rfl := Option.some.inj h
        exact ⟨hbound, exists_zeros_append_toDigits hne (List.all_eq_true.mp hdigits)⟩
      · cases h
    · rintro ⟨hbound, zeros, rfl⟩
      have hdigits : (List.replicate zeros '0' ++ Nat.toDigits 10 n).all Char.isDigit :=
        List.all_eq_true.mpr fun _ ↦ isDigit_of_mem_zeros_append
      rw [ofDigitChars_zeros_append, if_pos ⟨zeros_append_ne_nil, hdigits, hbound⟩]
  refine (hread _).trans ?_
  split
  · next rest =>
    refine and_congr_right fun _ ↦ ⟨?_, ?_⟩
    · rintro ⟨zeros, rfl⟩
      exact ⟨true, zeros, rfl⟩
    · rintro ⟨plus, zeros, heq⟩
      cases plus with
      | true => exact ⟨zeros, (List.cons.inj heq).2⟩
      | false =>
        have hplus : '+'.isDigit := isDigit_of_mem_zeros_append (heq ▸ List.mem_cons_self)
        cases hplus
  · next hplus =>
    refine and_congr_right fun _ ↦ ⟨?_, ?_⟩
    · rintro ⟨zeros, rfl⟩
      exact ⟨false, zeros, rfl⟩
    · rintro ⟨plus, zeros, rfl⟩
      cases plus with
      | true => exact (hplus _ rfl).elim
      | false => exact ⟨zeros, rfl⟩

theorem not_isBlank_of_isDigit (h : c.isDigit) : isBlank c = false := by
  rw [Char.isDigit, Bool.and_eq_true, decide_eq_true_iff, decide_eq_true_iff] at h
  have hrange : 48 ≤ c.toNat ∧ c.toNat ≤ 57 := h
  simp only [isBlank, inRanges, blankRanges, List.any_cons, List.any_nil, Bool.or_false]
  simp only [Bool.or_eq_false_iff, Bool.and_eq_false_iff, decide_eq_false_iff_not]
  omega

/-- What is read from a trimmed text stands in it between blanks. -/
theorem unsigned?_trim_eq_some_iff {bound : Nat} {cs : List Char} :
    unsigned? bound (trim cs) = some n ↔
      n < bound ∧ ∃ before plus zeros after, (∀ c ∈ before, isBlank c) ∧
        (∀ c ∈ after, isBlank c) ∧ cs = before ++ (unsignedText plus zeros n ++ after) := by
  rw [unsigned?_eq_some_iff]
  refine and_congr_right fun _ ↦ ⟨?_, ?_⟩
  · rintro ⟨plus, zeros, htrim⟩
    obtain ⟨before, after, heq, hbefore, hafter⟩ := exists_trim_append cs
    exact ⟨before, plus, zeros, after, hbefore, hafter, htrim ▸ heq⟩
  · rintro ⟨before, plus, zeros, after, hbefore, hafter, rfl⟩
    have hvisible : ∀ c ∈ unsignedText plus zeros n, isBlank c = false := by
      intro c hc
      rcases mem_unsignedText hc with rfl | hdigit
      · rfl
      · exact not_isBlank_of_isDigit hdigit
    refine ⟨plus, zeros, trim_append hbefore hafter unsignedText_ne_nil ?_ ?_⟩
    · exact fun c hc ↦ hvisible c (List.mem_of_mem_head? hc)
    · exact fun c hc ↦ hvisible c (List.mem_of_mem_getLast? hc)

end ExportTable.Text
