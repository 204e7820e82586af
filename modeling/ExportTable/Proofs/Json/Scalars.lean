import ExportTable.Json.Token
import ExportTable.Proofs.Json.Grammar
import Mathlib.Data.List.TakeDrop

/-!
# Strings and numbers read from their texts

A string is read from each of its texts, up to its own quote. A number is read from each of its
texts, where the text after it lets it end. The texts that are written are among these.
-/

namespace ExportTable.Json

/-! ## Strings -/

theorem scanParts_char {c : Char} (hquote : c ≠ '"') (hslash : c ≠ '\\') (hspace : ¬ c < ' ')
    (cs : List Char) :
    scanParts (c :: cs) = (scanParts cs).map fun (parts, rest) ↦ (.char c :: parts, rest) := by
  rw [scanParts]
  · rw [if_neg hspace]
    exact Option.map_eq_bind.symm
  all_goals simp_all

theorem scanParts_part {part : LiteralPart} {cs : List Char} (h : PartText part cs)
    (rest : List Char) :
    scanParts (cs ++ rest) = (scanParts rest).map fun (parts, rest) ↦ (part :: parts, rest) := by
  cases h with
  | char hquote hslash hcontrol => exact scanParts_char hquote hslash hcontrol rest
  | @escape letter c h =>
    have hunit : letter ≠ 'u' := by
      rintro rfl
      cases h
    rw [List.cons_append, List.singleton_append, scanParts, h]
    · exact Option.map_eq_bind.symm
    · exact fun _ _ _ _ _ heq ↦ absurd heq hunit
  | unit h =>
    simp only [List.cons_append, List.nil_append]
    rw [scanParts, h]
    exact Option.map_eq_bind.symm

theorem scanParts_parts {parts : List LiteralPart} {cs : List Char} (h : PartsText parts cs)
    (rest : List Char) : scanParts (cs ++ '"' :: rest) = some (parts, rest) := by
  induction h with
  | nil => rw [List.nil_append, scanParts]
  | cons hpart _ ih =>
    rw [List.append_assoc, scanParts_part hpart, ih]
    rfl

/-- A string is read from each of its texts, whatever follows it. -/
theorem scanToken?_string {value : Option String} {cs : List Char} (h : StringText value cs)
    (rest : List Char) : scanToken? (cs ++ rest) = some (.string value, rest) := by
  cases h with
  | quoted hparts =>
    rw [List.cons_append, List.append_assoc, List.singleton_append, scanToken?, scanLiteral,
      scanParts_parts hparts]
    rfl

/-! ## Written strings -/

/-- What a character is in a literal. A control character without a letter of its own is a unit. -/
def literalPart (c : Char) : LiteralPart :=
  if c < ' ' ∧ c ∉ ['\x08', '\x0c', '\n', '\r', '\t'] then .unit c.toNat else .char c

theorem toNat_lt_of_lt_space {c : Char} (h : c < ' ') : c.toNat < 32 := h

theorem hexValue?_hexDigit {n : Nat} (h : n < 256) :
    Text.hexValue? ['0', '0', hexDigit (n / 16), hexDigit (n % 16)] = some n := by
  revert n
  decide +kernel

theorem partText_escapeChar (c : Char) : PartText (literalPart c) (escapeChar c) := by
  unfold escapeChar
  split
  case h_8 hquote hslash hb hf hn hr ht =>
    split
    next hspace =>
      have hsmall : c.toNat < 32 := toNat_lt_of_lt_space hspace
      have hother : c ∉ ['\x08', '\x0c', '\n', '\r', '\t'] := by
        simp only [List.mem_cons, List.not_mem_nil, or_false, not_or]
        exact ⟨hb, hf, hn, hr, ht⟩
      rw [literalPart, if_pos ⟨hspace, hother⟩]
      exact .unit (hexValue?_hexDigit (by omega))
    next hspace =>
      rw [literalPart, if_neg fun h ↦ hspace h.1]
      exact .char hquote hslash hspace
  -- The other characters have a letter of their own after the backslash.
  all_goals exact .escape rfl

theorem partsText_escapeChar (cs : List Char) :
    PartsText (cs.map literalPart) (cs.flatMap escapeChar) := by
  induction cs with
  | nil => exact .nil
  | cons c cs ih =>
    rw [List.map_cons, List.flatMap_cons]
    exact .cons (partText_escapeChar c) ih

/-- A unit below the surrogates stands for itself, whatever comes after it. -/
theorem joinParts_unit {n : Nat} (h : n < 0xD800) (parts : List LiteralPart) :
    joinParts (.unit n :: parts) = (joinParts parts).map (Char.ofNat n :: ·) := by
  have hhigh : isHighUnit n = false := by
    rw [isHighUnit, decide_eq_false (by omega), Bool.false_and]
  have hlow : isLowUnit n = false := by
    rw [isLowUnit, decide_eq_false (by omega), Bool.false_and]
  rw [joinParts.eq_def]
  split
  next heq => cases heq
  next heq => cases heq
  next heq =>
    cases heq
    rw [hhigh, hlow, if_neg Bool.false_ne_true, if_neg Bool.false_ne_true]
  next heq =>
    cases heq
    rw [hhigh, hlow, if_neg (by decide)]

theorem joinParts_literalPart (cs : List Char) : joinParts (cs.map literalPart) = some cs := by
  induction cs with
  | nil => rw [List.map_nil, joinParts]
  | cons c cs ih =>
    rw [List.map_cons, literalPart]
    split
    next h =>
      have hsmall : c.toNat < 32 := toNat_lt_of_lt_space h.1
      rw [joinParts_unit (by omega), ih, Char.ofNat_toNat]
      rfl
    next =>
      rw [joinParts, ih]
      rfl

theorem stringText_escape (s : String) : StringText (some s) (escape s) := by
  have hvalue : (joinParts (s.toList.map literalPart)).map String.ofList = some s := by
    rw [joinParts_literalPart, Option.map_some, String.ofList_toList]
  rw [← hvalue]
  exact .quoted (partsText_escapeChar s.toList)

/-! ## Numbers -/

/-- The text does not make a number before it longer. -/
def EndsNumeral (cs : List Char) : Prop :=
  ∀ c ∈ cs.head?, ¬ c.isDigit ∧ c ≠ '.' ∧ c ≠ 'e' ∧ c ≠ 'E'

theorem spanDigits_append {digits rest : List Char} (hdigits : ∀ c ∈ digits, c.isDigit)
    (hrest : ∀ c ∈ rest.head?, ¬ c.isDigit) : spanDigits (digits ++ rest) = (digits, rest) := by
  rw [spanDigits, List.span_eq_takeWhile_dropWhile, List.takeWhile_append_of_pos hdigits,
    List.dropWhile_append_of_pos hdigits]
  cases rest with
  | nil => simp
  | cons c rest =>
    have hc : ¬ c.isDigit := hrest c rfl
    rw [List.takeWhile_cons_of_neg hc, List.dropWhile_cons_of_neg hc, List.append_nil]

variable {rest : List Char}

theorem scanFraction_append {fraction : Option (List Char)} {cs : List Char}
    (h : FractionText fraction cs) (hrest : ∀ c ∈ rest.head?, ¬ c.isDigit ∧ c ≠ '.') :
    scanFraction (cs ++ rest) = some (fraction, rest) := by
  cases h with
  | absent =>
    rw [List.nil_append]
    unfold scanFraction
    split
    next => exact absurd rfl (hrest '.' rfl).2
    next => rfl
  | digits h =>
    obtain ⟨hne, hdigits⟩ := h
    rw [List.cons_append, scanFraction, spanDigits_append hdigits fun c hc ↦ (hrest c hc).1]
    split
    next heq => exact absurd (congrArg Prod.fst heq) hne
    next heq =>
      cases heq
      rfl

theorem scanExponentDigits_append {cs : List Char} (h : AreDigits cs) (negative : Bool)
    (hrest : EndsNumeral rest) :
    scanExponentDigits negative (cs ++ rest) = some (some ⟨negative, cs⟩, rest) := by
  obtain ⟨hne, hdigits⟩ := h
  rw [scanExponentDigits, spanDigits_append hdigits fun c hc ↦ (hrest c hc).1]
  split
  next heq => exact absurd (congrArg Prod.fst heq) hne
  next heq =>
    cases heq
    rfl

theorem scanExponent_append {exponent : Option Exponent} {cs : List Char}
    (h : ExponentText exponent cs) (hrest : EndsNumeral rest) :
    scanExponent (cs ++ rest) = some (exponent, rest) := by
  cases h with
  | absent =>
    rw [List.nil_append]
    cases rest with
    | nil => rfl
    | cons c rest =>
      obtain ⟨_, _, hsmall, hlarge⟩ := hrest c rfl
      exact if_neg (not_or.mpr ⟨hsmall, hlarge⟩)
  | @unsigned mark cs hmark h =>
    obtain ⟨c, later, rfl⟩ := List.exists_cons_of_ne_nil h.1
    have hdigit : c.isDigit := h.2 c List.mem_cons_self
    rw [List.cons_append, scanExponent, if_pos hmark]
    · exact scanExponentDigits_append h false hrest
    all_goals
      rintro _ ⟨⟩
      contradiction
  | positive hmark h =>
    rw [List.cons_append, List.cons_append, scanExponent, if_pos hmark]
    exact scanExponentDigits_append h false hrest
  | negative hmark h =>
    rw [List.cons_append, List.cons_append, scanExponent, if_pos hmark]
    exact scanExponentDigits_append h true hrest

theorem FractionText.head?_append {fraction : Option (List Char)} {cs : List Char}
    (h : FractionText fraction cs) {c : Char} (hc : c ∈ (cs ++ rest).head?) :
    c = '.' ∨ c ∈ rest.head? := by
  cases h with
  | absent => exact .inr hc
  | digits _ => exact .inl (Option.some.inj hc).symm

theorem ExponentText.head?_append {exponent : Option Exponent} {cs : List Char}
    (h : ExponentText exponent cs) {c : Char} (hc : c ∈ (cs ++ rest).head?) :
    (c = 'e' ∨ c = 'E') ∨ c ∈ rest.head? := by
  cases h with
  | absent => exact .inr hc
  | unsigned hmark _ | positive hmark _ | negative hmark _ =>
    exact .inl (Option.some.inj hc ▸ hmark)

/-- A number without its sign. -/
theorem scanUnsigned_append {negative : Bool} {whole fraction exponent : List Char}
    {fraction? : Option (List Char)} {exponent? : Option Exponent} (hwhole : AreDigits whole)
    (hzero : whole.head? = some '0' → whole = ['0']) (hfraction : FractionText fraction? fraction)
    (hexponent : ExponentText exponent? exponent) (hrest : EndsNumeral rest) :
    scanUnsigned negative (whole ++ (fraction ++ (exponent ++ rest))) =
      some (⟨negative, whole, fraction?, exponent?⟩, rest) := by
  have hmarks : ∀ c ∈ (exponent ++ rest).head?, ¬ c.isDigit ∧ c ≠ '.' := by
    intro c hc
    rcases hexponent.head?_append hc with (rfl | rfl) | hc
    · decide
    · decide
    · exact ⟨(hrest c hc).1, (hrest c hc).2.1⟩
  have hend : ∀ c ∈ (fraction ++ (exponent ++ rest)).head?, ¬ c.isDigit := by
    intro c hc
    rcases hfraction.head?_append hc with rfl | hc
    · decide
    · exact (hmarks c hc).1
  rw [scanUnsigned, spanDigits_append hwhole.2 hend]
  split
  next heq => exact absurd (congrArg Prod.fst heq) hwhole.1
  next heq =>
    cases heq
    cases hzero rfl
  next heq =>
    cases heq
    rw [scanFraction_append hfraction hmarks]
    dsimp only
    rw [scanExponent_append hexponent hrest]

/-- A number is read from each of its texts, if it may end there. -/
theorem scanNumeral_append {n : Numeral} {cs : List Char} (h : NumeralText n cs)
    (hrest : EndsNumeral rest) : scanNumeral (cs ++ rest) = some (n, rest) := by
  obtain ⟨negative, whole, fraction?, exponent?⟩ := n
  obtain ⟨hwhole, hzero, fraction, exponent, hfraction, hexponent, rfl⟩ := h
  have hscan : ∀ negative, scanUnsigned negative (whole ++ (fraction ++ (exponent ++ rest))) =
      some (⟨negative, whole, fraction?, exponent?⟩, rest) := fun negative ↦
    scanUnsigned_append hwhole hzero hfraction hexponent hrest
  simp only [List.append_assoc]
  cases negative with
  | true => exact hscan true
  | false =>
    rw [← hscan false]
    change scanNumeral (whole ++ _) = _
    obtain ⟨c, later, hdigits⟩ := List.exists_cons_of_ne_nil hwhole.1
    dsimp only at hdigits
    subst hdigits
    have hdigit : c.isDigit := hwhole.2 c List.mem_cons_self
    rw [List.cons_append]
    unfold scanNumeral
    split
    next heq =>
      cases heq
      contradiction
    next => rfl

/-! ## Written numbers -/

/-- The digits of a number that is not zero start with another digit. -/
theorem head?_toDigits_ne_zero {n : Nat} (h : n ≠ 0) : (Nat.toDigits 10 n).head? ≠ some '0' := by
  induction n using Nat.strongRecOn with
  | ind n ih =>
    by_cases hsmall : n < 10
    · rw [Nat.toDigits_of_lt_base hsmall]
      simp [h]
    · have htail := ih (n / 10) (by omega) (by omega)
      obtain ⟨c, cs, hdigits⟩ :=
        List.exists_cons_of_ne_nil (Nat.toDigits_ne_nil (n := n / 10) (b := 10))
      rw [Nat.toDigits_of_base_le (by decide) (by omega)]
      rwa [hdigits] at htail ⊢

theorem areDigits_toDigits (n : Nat) : AreDigits (Nat.toDigits 10 n) :=
  ⟨Nat.toDigits_ne_nil, fun _ hc ↦ Nat.isDigit_of_mem_toDigits (by decide) (by decide) hc⟩

theorem numeralText_ofNat (n : Nat) : NumeralText (.ofNat n) (Nat.toDigits 10 n) where
  whole := areDigits_toDigits n
  zero := by
    intro hhead
    by_cases hn : n = 0
    · subst hn
      rfl
    · exact absurd hhead (head?_toDigits_ne_zero hn)
  parts := ⟨[], [], .absent, .absent, by rw [List.append_nil, List.append_nil]; rfl⟩

theorem natural?_ofNat (n : Nat) : (Numeral.ofNat n).natural? = some n := by
  rw [Numeral.natural?, if_pos ⟨rfl, rfl⟩, digitsValue, Numeral.ofNat,
    Nat.ofDigitChars_ten_toDigits]

end ExportTable.Json
