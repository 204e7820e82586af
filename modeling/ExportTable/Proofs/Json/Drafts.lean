import ExportTable.Proofs.Json.Scalars
import ExportTable.Proofs.Json.Tokens
import Mathlib.Tactic.Choose

/-!
# Texts read as drafts

Every text of a draft is read as this draft, and nothing follows it. White space makes no tokens, and
a number ends before white space and before each mark, so a text has the tokens of its parts one after
the other. These are then read as the draft, whatever follows them.
-/

namespace ExportTable.Json

/-! ## Tokens -/

/-- The text is read as the tokens before every text that lets a number end. -/
def Spells (cs : List Char) (ts : List Token) : Prop :=
  ∀ rest, EndsNumeral rest → tokens (cs ++ rest) = ts ++ tokens rest

theorem endsNumeral_cons {c : Char} (h : ¬ c.isDigit ∧ c ≠ '.' ∧ c ≠ 'e' ∧ c ≠ 'E')
    (cs : List Char) : EndsNumeral (c :: cs) := by
  intro first hfirst
  cases hfirst
  exact h

theorem endsNumeral_nil : EndsNumeral [] := nofun

theorem endsNumeral_mark {c : Char} {token : Token} (h : mark? c = some token) (cs : List Char) :
    EndsNumeral (c :: cs) := by
  apply endsNumeral_cons
  unfold mark? at h
  split at h
  all_goals first | decide | cases h

theorem endsNumeral_gap {gap rest : List Char} (hgap : AllGaps gap) (hrest : EndsNumeral rest) :
    EndsNumeral (gap ++ rest) := by
  cases gap with
  | nil => exact hrest
  | cons c cs =>
    apply endsNumeral_cons
    have hc := hgap c List.mem_cons_self
    simp only [isGap, Bool.or_eq_true, beq_iff_eq] at hc
    rcases hc with ((rfl | rfl) | rfl) | rfl <;> decide

theorem not_isGap_of_mark? {c : Char} {token : Token} (h : mark? c = some token) : ¬ isGap c := by
  unfold mark? at h
  split at h
  all_goals first | decide | cases h

/-- What a number starts with. -/
def StartsNumeral (c : Char) : Prop := c.isDigit ∨ c = '-'

instance (c : Char) : Decidable (StartsNumeral c) :=
  inferInstanceAs (Decidable (c.isDigit ∨ c = '-'))

theorem NumeralText.exists_cons {n : Numeral} {cs : List Char} (h : NumeralText n cs) :
    ∃ c rest, cs = c :: rest ∧ StartsNumeral c := by
  obtain ⟨negative, whole, _, _⟩ := n
  obtain ⟨hwhole, _, fraction, exponent, _, _, rfl⟩ := h
  cases negative with
  | true => exact ⟨_, _, rfl, .inr rfl⟩
  | false =>
    obtain ⟨c, later, hdigits⟩ := List.exists_cons_of_ne_nil hwhole.1
    dsimp only at hdigits hwhole ⊢
    rw [hdigits]
    exact ⟨c, _, rfl, .inl (hwhole.2 c (hdigits ▸ List.mem_cons_self))⟩

namespace StartsNumeral

variable {c : Char} (h : StartsNumeral c)
include h

theorem not_isGap : ¬ isGap c := by
  intro hgap
  simp only [isGap, Bool.or_eq_true, beq_iff_eq] at hgap
  rcases hgap with ((rfl | rfl) | rfl) | rfl <;> exact absurd h (by decide)

theorem mark?_eq_none : mark? c = none := by
  unfold mark?
  split <;> first | rfl | exact absurd h (by decide)

theorem scanToken?_eq (cs : List Char) :
    scanToken? (c :: cs) = (scanNumeral (c :: cs)).map fun (n, rest) ↦ (.number n, rest) := by
  unfold scanToken?
  split
  case h_5 => rfl
  all_goals
    next heq =>
      cases heq
      exact absurd h (by decide)

end StartsNumeral

namespace Spells

variable {a b : List Char} {s t : List Token}

theorem nil : Spells [] [] := fun _ _ ↦ rfl

theorem append (ha : Spells a s) (hb : Spells b t)
    (hend : ∀ rest, EndsNumeral rest → EndsNumeral (b ++ rest)) : Spells (a ++ b) (s ++ t) := by
  intro rest hrest
  rw [List.append_assoc, ha _ (hend rest hrest), hb rest hrest, List.append_assoc]

theorem mark {c : Char} {token : Token} (h : mark? c = some token) (hb : Spells b t) :
    Spells (c :: b) (token :: t) := by
  intro rest hrest
  rw [List.cons_append, tokens_mark (not_isGap_of_mark? h) h, hb rest hrest, List.cons_append]

/-- A mark ends the number before it. -/
theorem append_mark {c : Char} {token : Token} (ha : Spells a s) (h : mark? c = some token)
    (hb : Spells b t) : Spells (a ++ c :: b) (s ++ token :: t) :=
  ha.append (.mark h hb) fun _ _ ↦ endsNumeral_mark h _

theorem gap {gap : List Char} (hgap : AllGaps gap) (ha : Spells a s) : Spells (gap ++ a) s := by
  induction gap with
  | nil => exact ha
  | cons c cs ih =>
    obtain ⟨hc, hcs⟩ := List.forall_mem_cons.mp hgap
    intro rest hrest
    rw [List.cons_append, List.cons_append, tokens_gap hc, ih hcs rest hrest]

theorem append_gap {gap : List Char} (ha : Spells a s) (hgap : AllGaps gap) :
    Spells (a ++ gap) s := by
  intro rest hrest
  have hspells := Spells.gap hgap .nil rest hrest
  rw [List.append_nil, List.nil_append] at hspells
  rw [List.append_assoc, ha _ (endsNumeral_gap hgap hrest), hspells]

theorem intercalate {l : List α} {text : α → List Char} {spelled : α → List Token}
    (h : ∀ x ∈ l, Spells (text x) (spelled x)) :
    Spells ([','].intercalate (l.map text)) ([Token.comma].intercalate (l.map spelled)) := by
  induction l with
  | nil => exact nil
  | cons x rest ih =>
    obtain ⟨hx, hrest⟩ := List.forall_mem_cons.mp h
    cases rest with
    | nil => simpa using hx
    | cons y later =>
      have hcomma : mark? ',' = some .comma := rfl
      have hlater := hx.append_mark hcomma (ih hrest)
      simpa only [List.map_cons, List.intercalate_cons_cons, List.append_assoc,
        List.singleton_append] using hlater

/-- A container with white space before its end mark. -/
theorem enclosed {first last : Char} {opening closing : Token} {gap : List Char}
    (hopening : mark? first = some opening) (hclosing : mark? last = some closing)
    (hgap : AllGaps gap) (ha : Spells a s) :
    Spells (first :: (a ++ (gap ++ [last]))) (opening :: (s ++ [closing])) := by
  rw [← List.append_assoc a]
  exact .mark hopening ((ha.append_gap hgap).append_mark hclosing .nil)

theorem string {value : Option String} (h : StringText value a) : Spells a [.string value] := by
  intro rest _
  have hscan := scanToken?_string h rest
  cases h with
  | quoted => exact tokens_scan (by decide) rfl hscan

theorem number {n : Numeral} (h : NumeralText n a) : Spells a [.number n] := by
  intro rest hrest
  have hscan := scanNumeral_append h hrest
  obtain ⟨c, later, rfl, hstart⟩ := h.exists_cons
  rw [List.cons_append] at hscan ⊢
  apply tokens_scan hstart.not_isGap hstart.mark?_eq_none
  rw [hstart.scanToken?_eq, hscan]
  rfl

end Spells

/-! ## Drafts -/

/-- The tokens are read as the draft, whatever follows them, with fuel for each of them. -/
def Restores (ts : List Token) (d : Draft) : Prop :=
  ∀ fuel rest, ts.length ≤ fuel → Draft.value fuel (ts ++ rest) = (d, some rest)

namespace Restores

/-- A value does not start with the end mark that the reader of an array looks for. -/
theorem exists_cons {ts : List Token} {d : Draft} (h : Restores ts d) :
    ∃ token later, ts = token :: later ∧ token ≠ .closeArray := by
  cases ts with
  | nil => cases h 1 [] (Nat.zero_le 1)
  | cons token later =>
    refine ⟨token, later, rfl, ?_⟩
    rintro rfl
    cases h (later.length + 1) [] (Nat.le_refl _)

theorem scalar {token : Token} {d : Draft}
    (h : ∀ fuel rest, Draft.value (fuel + 1) (token :: rest) = (d, some rest)) :
    Restores [token] d := by
  intro fuel rest hfuel
  cases fuel with
  | zero => cases hfuel
  | succ fuel => exact h fuel rest

theorem intercalate_cons {l : List α} {spelled : α → List Token} (x : α) (h : l ≠ []) :
    [Token.comma].intercalate ((x :: l).map spelled) =
      spelled x ++ .comma :: [Token.comma].intercalate (l.map spelled) := by
  rw [List.map_cons, List.intercalate_cons_of_ne_nil (by simpa using h), List.append_assoc,
    List.singleton_append]

theorem exists_intercalate_cons (l : List α) {spelled : α → List Token} {x : α} {token : Token}
    {ts : List Token} (h : spelled x = token :: ts) :
    ∃ later, [Token.comma].intercalate ((x :: l).map spelled) = token :: later := by
  by_cases hlast : l = []
  · exact ⟨ts, by rw [hlast, List.map_singleton, List.intercalate_singleton, h]⟩
  · exact ⟨_, by rw [intercalate_cons x hlast, h, List.cons_append]⟩

variable {l : List α} {spelled : α → List Token} {draft : α → Draft}

theorem items (hempty : l ≠ []) (h : ∀ x ∈ l, Restores (spelled x) (draft x)) (fuel : Nat)
    (hfuel : ([Token.comma].intercalate (l.map spelled)).length < fuel) (rest : List Token) :
    Draft.items fuel ([Token.comma].intercalate (l.map spelled) ++ .closeArray :: rest) =
      (l.map draft, some rest) := by
  induction l generalizing fuel with
  | nil => contradiction
  | cons x later ih =>
    obtain ⟨hx, hlater⟩ := List.forall_mem_cons.mp h
    obtain ⟨fuel, rfl⟩ : ∃ before, fuel = before + 1 := ⟨fuel - 1, by omega⟩
    by_cases hlast : later = []
    · subst hlast
      rw [List.map_singleton, List.intercalate_singleton] at hfuel ⊢
      rw [Draft.items, hx fuel _ (by omega)]
      rfl
    · rw [intercalate_cons x hlast] at hfuel ⊢
      rw [List.length_append, List.length_cons] at hfuel
      rw [Draft.items, List.append_assoc, hx fuel _ (by omega)]
      dsimp only [List.cons_append]
      rw [ih hlast hlater fuel (by omega)]
      rfl

theorem array (h : ∀ x ∈ l, Restores (spelled x) (draft x)) :
    Restores (.openArray :: ([Token.comma].intercalate (l.map spelled) ++ [.closeArray]))
      (.array (l.map draft) true) := by
  intro fuel rest hfuel
  rw [List.length_cons, List.length_append, List.length_singleton] at hfuel
  obtain ⟨fuel, rfl⟩ : ∃ before, fuel = before + 1 := ⟨fuel - 1, by omega⟩
  rw [List.cons_append, List.append_assoc, List.singleton_append]
  cases l with
  | nil => rfl
  | cons x later =>
    have hitems := items (List.cons_ne_nil x later) h fuel (by omega) rest
    -- The reader looks at one more token, for the end of an array without items.
    obtain ⟨token, ts, htokens, hopen⟩ := (h x List.mem_cons_self).exists_cons
    obtain ⟨more, hmore⟩ := exists_intercalate_cons later htokens
    rw [hmore, List.cons_append] at hitems ⊢
    rw [Draft.value, hitems]
    · rfl
    · rintro _ ⟨⟩
      exact hopen rfl

/-- The tokens of a member. -/
def memberTokens (key : α → Option String) (spelled : α → List Token) (x : α) : List Token :=
  .string (key x) :: .colon :: spelled x

theorem members (key : α → Option String) (hempty : l ≠ [])
    (h : ∀ x ∈ l, Restores (spelled x) (draft x)) (fuel : Nat)
    (hfuel : ([Token.comma].intercalate (l.map (memberTokens key spelled))).length < fuel)
    (rest : List Token) :
    Draft.members fuel
        ([Token.comma].intercalate (l.map (memberTokens key spelled)) ++ .closeObject :: rest) =
      (l.map fun x ↦ (key x, draft x), some rest) := by
  induction l generalizing fuel with
  | nil => contradiction
  | cons x later ih =>
    obtain ⟨hx, hlater⟩ := List.forall_mem_cons.mp h
    obtain ⟨fuel, rfl⟩ : ∃ before, fuel = before + 1 := ⟨fuel - 1, by omega⟩
    by_cases hlast : later = []
    · subst hlast
      rw [List.map_singleton, List.intercalate_singleton, memberTokens] at hfuel ⊢
      rw [List.length_cons, List.length_cons] at hfuel
      rw [List.cons_append, List.cons_append, Draft.members, hx fuel _ (by omega)]
      rfl
    · rw [intercalate_cons x hlast, memberTokens] at hfuel ⊢
      simp only [List.length_append, List.length_cons] at hfuel
      rw [List.append_assoc, List.cons_append, List.cons_append, Draft.members,
        hx fuel _ (by omega)]
      dsimp only [List.cons_append]
      rw [ih hlast hlater fuel (by omega)]
      rfl

theorem object (key : α → Option String) (h : ∀ x ∈ l, Restores (spelled x) (draft x)) :
    Restores
      (.openObject ::
        ([Token.comma].intercalate (l.map (memberTokens key spelled)) ++ [.closeObject]))
      (.object (l.map fun x ↦ (key x, draft x)) true) := by
  intro fuel rest hfuel
  rw [List.length_cons, List.length_append, List.length_singleton] at hfuel
  obtain ⟨fuel, rfl⟩ : ∃ before, fuel = before + 1 := ⟨fuel - 1, by omega⟩
  rw [List.cons_append, List.append_assoc, List.singleton_append]
  cases l with
  | nil => rfl
  | cons x later =>
    have hmembers := members key (List.cons_ne_nil x later) h fuel (by omega) rest
    have hfirst : memberTokens key spelled x = .string (key x) :: .colon :: spelled x := rfl
    obtain ⟨more, hmore⟩ := exists_intercalate_cons later hfirst
    rw [hmore, List.cons_append] at hmembers ⊢
    rw [Draft.value, hmembers]
    · rfl
    · rintro _ ⟨⟩

end Restores

/-! ## Texts -/

theorem Draft.HasText.spells_string {value : Option String} {cs : List Char}
    (h : HasText (.string value) cs) : Spells cs [.string value] := by
  generalize hd : Draft.string value = d at h
  induction h with
  | string h =>
    cases hd
    exact .string h
  | padded hbefore hafter _ ih => exact .gap hbefore ((ih hd).append_gap hafter)
  | _ => cases hd

/-- Every text of a draft has tokens that are read as the draft. -/
theorem Draft.HasText.exists_tokens {d : Draft} {cs : List Char} (h : d.HasText cs) :
    ∃ ts, Spells cs ts ∧ Restores ts d := by
  induction h with
  | null =>
    exact ⟨[.null], fun _ _ ↦ tokens_scan (by decide) rfl rfl, .scalar fun _ _ ↦ rfl⟩
  | boolTrue | boolFalse =>
    exact ⟨[.bool _], fun _ _ ↦ tokens_scan (by decide) rfl rfl, .scalar fun _ _ ↦ rfl⟩
  | number h => exact ⟨[.number _], .number h, .scalar fun _ _ ↦ rfl⟩
  | string h => exact ⟨[.string _], .string h, .scalar fun _ _ ↦ rfl⟩
  | array _ hgap ih =>
    choose! spelled hspelled hrestores using ih
    exact ⟨_, .enclosed rfl rfl hgap (.intercalate hspelled), .array hrestores⟩
  | @object members _ hkeys _ hgap _ ih =>
    choose! spelled hspelled hrestores using ih
    have hmembers : ∀ member ∈ members, Spells (member.2.1 ++ ':' :: member.2.2)
        (Restores.memberTokens (·.1.1) spelled member) := fun member hmember ↦
      (hkeys member hmember).spells_string.append_mark rfl (hspelled member hmember)
    exact ⟨_, .enclosed rfl rfl hgap (.intercalate hmembers), .object (·.1.1) hrestores⟩
  | padded hbefore hafter _ ih =>
    obtain ⟨ts, hspells, hrestores⟩ := ih
    exact ⟨ts, .gap hbefore (hspells.append_gap hafter), hrestores⟩

/-- A text of a draft is read as this draft, and nothing follows it. -/
theorem Document.read_of_hasText {text : String} {d : Draft} (h : d.HasText text.toList) :
    Document.read text = ⟨d, true⟩ := by
  obtain ⟨ts, hspells, hrestores⟩ := h.exists_tokens
  have htokens := hspells [] endsNumeral_nil
  have hvalue := hrestores (2 * ts.length + 1) [] (by omega)
  rw [List.append_nil, tokens_nil, List.append_nil] at htokens
  rw [List.append_nil] at hvalue
  rw [Document.read, htokens, Document.ofTokens, hvalue]
  rfl

end ExportTable.Json
