import ExportTable.Json.Draft

/-!
# The grammar of JSON

The texts that spell a draft which was read to its end. White space may stand around every token, a
number may be written in all its forms, and every character of a string may be escaped. A member has
no name if its string has no value, which happens where an escaped unit lacks its partner.
-/

namespace ExportTable.Json

/-- White space between tokens. -/
def AllGaps (cs : List Char) : Prop := ∀ c ∈ cs, isGap c

/-! ## Numbers -/

def AreDigits (cs : List Char) : Prop := cs ≠ [] ∧ ∀ c ∈ cs, c.isDigit

inductive FractionText : Option (List Char) → List Char → Prop
  | absent : FractionText none []
  | digits {cs : List Char} (h : AreDigits cs) : FractionText (some cs) ('.' :: cs)

inductive ExponentText : Option Exponent → List Char → Prop
  | absent : ExponentText none []
  | unsigned {mark : Char} {cs : List Char} (hmark : mark = 'e' ∨ mark = 'E') (h : AreDigits cs) :
      ExponentText (some ⟨false, cs⟩) (mark :: cs)
  | positive {mark : Char} {cs : List Char} (hmark : mark = 'e' ∨ mark = 'E') (h : AreDigits cs) :
      ExponentText (some ⟨false, cs⟩) (mark :: '+' :: cs)
  | negative {mark : Char} {cs : List Char} (hmark : mark = 'e' ∨ mark = 'E') (h : AreDigits cs) :
      ExponentText (some ⟨true, cs⟩) (mark :: '-' :: cs)

def sign (negative : Bool) : List Char := if negative then ['-'] else []

/-- The parts of a number follow each other. A zero in front has no further digit after it. -/
structure NumeralText (n : Numeral) (cs : List Char) : Prop where
  whole : AreDigits n.whole
  zero : n.whole.head? = some '0' → n.whole = ['0']
  parts : ∃ fraction exponent, FractionText n.fraction fraction ∧
    ExponentText n.exponent exponent ∧
    cs = sign n.negative ++ (n.whole ++ (fraction ++ exponent))

/-! ## Strings -/

inductive PartText : LiteralPart → List Char → Prop
  | char {c : Char} (hquote : c ≠ '"') (hslash : c ≠ '\\') (hcontrol : ¬ c < ' ') :
      PartText (.char c) [c]
  | escape {letter c : Char} (h : simpleEscape? letter = some c) :
      PartText (.char c) ['\\', letter]
  | unit {a b c d : Char} {n : Nat} (h : Text.hexValue? [a, b, c, d] = some n) :
      PartText (.unit n) ['\\', 'u', a, b, c, d]

inductive PartsText : List LiteralPart → List Char → Prop
  | nil : PartsText [] []
  | cons {part : LiteralPart} {parts : List LiteralPart} {cs rest : List Char}
      (hpart : PartText part cs) (hparts : PartsText parts rest) :
      PartsText (part :: parts) (cs ++ rest)

/-- The text of a string, in quotes. -/
inductive StringText : Option String → List Char → Prop
  | quoted {parts : List LiteralPart} {cs : List Char} (h : PartsText parts cs) :
      StringText ((joinParts parts).map String.ofList) ('"' :: (cs ++ ['"']))

/-! ## Values -/

namespace Draft

/-- The text of a value, with any white space around it. The pairs of a container hold what its
parts are and how they are written. -/
inductive HasText : Draft → List Char → Prop
  | null : HasText .null ['n', 'u', 'l', 'l']
  | boolTrue : HasText (.bool true) ['t', 'r', 'u', 'e']
  | boolFalse : HasText (.bool false) ['f', 'a', 'l', 's', 'e']
  | number {n : Numeral} {cs : List Char} (h : NumeralText n cs) : HasText (.number n) cs
  | string {value : Option String} {cs : List Char} (h : StringText value cs) :
      HasText (.string value) cs
  | array {items : List (Draft × List Char)} {gap : List Char}
      (hitems : ∀ item ∈ items, HasText item.1 item.2) (hgap : AllGaps gap) :
      HasText (.array (items.map Prod.fst) true)
        ('[' :: ([','].intercalate (items.map Prod.snd) ++ (gap ++ [']'])))
  | object {members : List ((Option String × Draft) × List Char × List Char)} {gap : List Char}
      (hkeys : ∀ member ∈ members, HasText (.string member.1.1) member.2.1)
      (hvalues : ∀ member ∈ members, HasText member.1.2 member.2.2) (hgap : AllGaps gap) :
      HasText (.object (members.map Prod.fst) true)
        ('\x7b' :: ([','].intercalate (members.map fun member ↦ member.2.1 ++ ':' :: member.2.2) ++
          (gap ++ ['\x7d'])))
  | padded {d : Draft} {before cs after : List Char} (hbefore : AllGaps before)
      (hafter : AllGaps after) (h : HasText d cs) : HasText d (before ++ (cs ++ after))

namespace HasText

theorem exists_numeralText {n : Numeral} {cs : List Char} (h : HasText (.number n) cs) :
    ∃ text, NumeralText n text := by
  generalize hd : Draft.number n = d at h
  induction h with
  | number h =>
    cases hd
    exact ⟨_, h⟩
  | padded _ _ _ ih => exact ih hd
  | _ => cases hd

theorem exists_of_mem_object {members : List (Option String × Draft)} {closed : Bool}
    {cs : List Char} (h : HasText (.object members closed) cs) :
    ∀ member ∈ members, ∃ text, member.2.HasText text := by
  generalize hd : Draft.object members closed = d at h
  induction h with
  | object _ hvalues _ _ _ =>
    cases hd
    intro member hmember
    obtain ⟨written, hwritten, rfl⟩ := List.mem_map.mp hmember
    exact ⟨_, hvalues written hwritten⟩
  | padded _ _ _ ih => exact ih hd
  | _ => cases hd

theorem isWhole {d : Draft} {cs : List Char} (h : d.HasText cs) : d.isWhole := by
  induction h with
  | padded _ _ _ ih => exact ih
  | _ => rfl

end HasText

end Draft

end ExportTable.Json
