import ExportTable.Proofs.Json.Readers
import ExportTable.Proofs.Text.Decimal

/-!
# Numbers and truth values of hand-edited tables

A lenient field takes a number as such or as a string with its decimal text, and a truth value as
such or as an integer. It takes exactly these spellings and gives the value that they spell: a number
that is too large is reported and never cut down to the width of the field.
-/

namespace ExportTable.Json

/-! ## Integers -/

/-- The number of an integer. There is no negative zero among the integers. -/
def Numeral.ofInt : Int → Numeral
  | .ofNat n => .ofNat n
  | .negSucc n => { Numeral.ofNat (n + 1) with negative := true }

theorem digitsValue_ofNat (n : Nat) : digitsValue (Numeral.ofNat n).whole = n := by
  rw [digitsValue, Numeral.ofNat, Nat.ofDigitChars_ten_toDigits]

theorem integer?_ofInt (i : Int) : (Numeral.ofInt i).integer? = some i := by
  cases i with
  | ofNat n =>
    rw [Numeral.ofInt, Numeral.integer?, if_pos ⟨rfl, nofun⟩, digitsValue_ofNat]
    rfl
  | negSucc n =>
    have hvalue : digitsValue (Numeral.ofInt (.negSucc n)).whole = n + 1 := digitsValue_ofNat _
    have hnonzero : digitsValue (Numeral.ofInt (.negSucc n)).whole ≠ 0 := by
      rw [hvalue]
      exact Nat.succ_ne_zero n
    rw [Numeral.integer?, if_pos ⟨rfl, fun hzero ↦ hnonzero hzero.2⟩, hvalue]
    rfl

/-- A number of digits only is the one of their value, up to its sign. -/
theorem NumeralText.eq_of_isPlain {num : Numeral} {cs : List Char} (h : NumeralText num cs)
    (hplain : num.isPlain) :
    num = { Numeral.ofNat (digitsValue num.whole) with negative := num.negative } := by
  have hwhole : Nat.toDigits 10 (digitsValue num.whole) = num.whole :=
    Text.toDigits_ofDigitChars h.whole.1 h.whole.2 h.zero
  obtain ⟨hfraction, hexponent⟩ := Bool.and_eq_true_iff.mp hplain
  obtain ⟨negative, whole, fraction, exponent⟩ := num
  rw [Option.isNone_iff_eq_none] at hfraction hexponent
  dsimp only at hfraction hexponent hwhole ⊢
  rw [Numeral.ofNat, hwhole, hfraction, hexponent]

namespace NumeralText

variable {num : Numeral} {cs : List Char} (h : NumeralText num cs)
include h

theorem natural?_eq_some_iff {n : Nat} : num.natural? = some n ↔ num = .ofNat n := by
  constructor
  · intro hnatural
    rw [Numeral.natural?] at hnatural
    split at hnatural
    · next hplain =>
      have heq := h.eq_of_isPlain hplain.1
      rw [Bool.not_eq_true'] at hplain
      rw [hplain.2] at heq
      rw [← Option.some.inj hnatural]
      exact heq
    · cases hnatural
  · rintro rfl
    exact natural?_ofNat n

theorem integer?_eq_some_iff {i : Int} : num.integer? = some i ↔ num = .ofInt i := by
  constructor
  · intro hinteger
    rw [Numeral.integer?] at hinteger
    split at hinteger
    · next hplain =>
      have heq := h.eq_of_isPlain hplain.1
      rw [← Option.some.inj hinteger]
      cases hsign : num.negative with
      | false =>
        rw [hsign] at heq
        exact heq
      | true =>
        rw [hsign] at heq
        have hvalue : digitsValue num.whole ≠ 0 := fun hzero ↦ hplain.2 ⟨hsign, hzero⟩
        obtain ⟨n, hn⟩ := Nat.exists_eq_succ_of_ne_zero hvalue
        rw [hn] at heq ⊢
        exact heq
    · cases hinteger
  · rintro rfl
    exact integer?_ofInt i

end NumeralText

/-! ## Lenient fields -/

/-- The ways to give a number to a lenient field. -/
inductive SpellsNatural (n : Nat) : Draft → Prop
  | number : SpellsNatural n (.number (.ofNat n))
  | string {before after : List Char} (plus : Bool) (zeros : Nat)
      (hbefore : ∀ c ∈ before, Text.isBlank c) (hafter : ∀ c ∈ after, Text.isBlank c) :
      SpellsNatural n
        (.string (some (String.ofList (before ++ (Text.unsignedText plus zeros n ++ after)))))

/-- The ways to give a truth value to a lenient field. -/
inductive SpellsBool (b : Bool) : Draft → Prop
  | bool : SpellsBool b (.bool b)
  | number {i : Int} (hlower : -0x8000000000000000 ≤ i) (hupper : i < 0x8000000000000000)
      (hzero : i = 0 ↔ b = false) : SpellsBool b (.number (.ofInt i))

namespace Reader

/-- A number of 64 bits is taken if it has 32 bits, and reported if not. -/
theorem lenientNatural_of_spells {n : Nat} {d : Draft} (h : SpellsNatural n d)
    (hwide : n < UInt64.size) :
    lenientNatural d = if n < UInt32.size then .ok n else .error (.outOfRange n) := by
  cases h with
  | number =>
    rw [lenientNatural]
    dsimp only
    rw [natural?_ofNat, Option.filter_some, if_pos (decide_eq_true hwide)]
    rfl
  | @string before after plus zeros hbefore hafter =>
    have hread : Text.unsigned? UInt64.size
        (Text.trim (before ++ (Text.unsignedText plus zeros n ++ after))) = some n :=
      Text.unsigned?_trim_eq_some_iff.mpr
        ⟨hwide, before, plus, zeros, after, hbefore, hafter, rfl⟩
    rw [lenientNatural]
    dsimp only
    rw [String.toList_ofList, hread]
    rfl

theorem lenientNatural_eq_ok_iff {n : Nat} {d : Draft} {cs : List Char} (h : d.HasText cs) :
    lenientNatural d = .ok n ↔ SpellsNatural n d ∧ n < UInt32.size := by
  constructor
  · intro hread
    have hnarrow (value : Nat)
        (hvalue : (if value < UInt32.size then .ok value else .error (.outOfRange value)) =
          (Except.ok n : Except ReadError Nat)) : value = n ∧ n < UInt32.size := by
      split at hvalue
      · next hsmall =>
        obtain rfl := Except.ok.inj hvalue
        exact ⟨rfl, hsmall⟩
      · cases hvalue
    unfold lenientNatural at hread
    split at hread
    · next num =>
      obtain ⟨value, hvalue, hread⟩ := bind_eq_ok_iff.mp hread
      obtain ⟨rfl, hsmall⟩ := hnarrow value hread
      obtain ⟨text, hnum⟩ := h.exists_numeralText
      obtain ⟨hnatural, -⟩ := Option.filter_eq_some_iff.mp (ofOption_eq_ok_iff.mp hvalue)
      obtain rfl := hnum.natural?_eq_some_iff.mp hnatural
      exact ⟨.number, hsmall⟩
    · next s =>
      split at hread
      · next value hunsigned =>
        obtain ⟨rfl, hsmall⟩ := hnarrow value hread
        obtain ⟨-, before, plus, zeros, after, hbefore, hafter, htext⟩ :=
          Text.unsigned?_trim_eq_some_iff.mp hunsigned
        have hs : s = String.ofList _ :=
          String.toList_inj.mp (htext.trans String.toList_ofList.symm)
        subst hs
        exact ⟨.string plus zeros hbefore hafter, hsmall⟩
      · cases hread
    · cases hread
  · rintro ⟨hspells, hnarrow⟩
    have hwide : n < UInt64.size := Nat.lt_trans hnarrow (by decide)
    rw [lenientNatural_of_spells hspells hwide, if_pos hnarrow]

theorem lenientBool_eq_ok_iff {b : Bool} {d : Draft} {cs : List Char} (h : d.HasText cs) :
    lenientBool d = .ok b ↔ SpellsBool b d := by
  constructor
  · intro hread
    unfold lenientBool at hread
    split at hread
    · obtain rfl := Except.ok.inj hread
      exact .bool
    · next num =>
      obtain ⟨text, hnum⟩ := h.exists_numeralText
      obtain ⟨i, hinteger, hvalue⟩ := Option.bind_eq_some_iff.mp (ofOption_eq_ok_iff.mp hread)
      obtain rfl := hnum.integer?_eq_some_iff.mp hinteger
      split at hvalue
      · next hrange =>
        refine .number hrange.1 hrange.2 ?_
        rw [← Option.some.inj hvalue, decide_eq_false_iff_not, not_not]
      · cases hvalue
    · cases hread
  · intro hspells
    cases hspells with
    | bool => rfl
    | @number i hlower hupper hzero =>
      have hvalue : decide (i ≠ 0) = b := by
        cases b <;> simp [hzero]
      rw [lenientBool, integer?_ofInt, Option.bind_eq_bind, Option.bind_some,
        if_pos ⟨hlower, hupper⟩, hvalue]
      rfl

end Reader

end ExportTable.Json
