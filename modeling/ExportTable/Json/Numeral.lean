import ExportTable.Text.DoubleRange

/-!
# Numbers of JSON

A number is kept as it is written, since the same text may be read as an integer of some width, may
be passed over, or may have to fit a double-precision number.
-/

namespace ExportTable.Json

structure Exponent where
  negative : Bool
  digits : List Char
  deriving DecidableEq, Repr

structure Numeral where
  negative : Bool
  /-- The digits before the decimal point; none of several is a leading zero. -/
  whole : List Char
  fraction : Option (List Char)
  exponent : Option Exponent
  deriving DecidableEq, Repr

/-- Splits off the digits in front. -/
def spanDigits (cs : List Char) : List Char × List Char := cs.span Char.isDigit

def digitsValue (cs : List Char) : Nat := Nat.ofDigitChars 10 cs 0

/-- Digits after a decimal point, if there is one; `none` if the point has no digit after it. -/
def scanFraction : List Char → Option (Option (List Char) × List Char)
  | '.' :: cs =>
    match spanDigits cs with
    | ([], _) => none
    | (digits, rest) => some (some digits, rest)
  | cs => some (none, cs)

/-- Digits of an exponent after its sign. -/
def scanExponentDigits (negative : Bool) (cs : List Char) : Option (Option Exponent × List Char) :=
  match spanDigits cs with
  | ([], _) => none
  | (digits, rest) => some (some ⟨negative, digits⟩, rest)

/-- An exponent, if there is one; `none` if it has no digit. -/
def scanExponent : List Char → Option (Option Exponent × List Char)
  | c :: cs =>
    if c = 'e' ∨ c = 'E' then
      match cs with
      | '+' :: rest => scanExponentDigits false rest
      | '-' :: rest => scanExponentDigits true rest
      | _ => scanExponentDigits false cs
    else
      some (none, c :: cs)
  | [] => some (none, [])

/-- The number without sign that starts the text, and the text after it. -/
def scanUnsigned (negative : Bool) (cs : List Char) : Option (Numeral × List Char) :=
  match spanDigits cs with
  | ([], _) => none
  | ('0' :: _ :: _, _) => none
  | (whole, rest) =>
    match scanFraction rest with
    | none => none
    | some (fraction, rest) =>
      match scanExponent rest with
      | none => none
      | some (exponent, rest) => some (⟨negative, whole, fraction, exponent⟩, rest)

/-- The number that starts the text, and the text after it. -/
def scanNumeral : List Char → Option (Numeral × List Char)
  | '-' :: cs => scanUnsigned true cs
  | cs => scanUnsigned false cs

namespace Numeral

/-- The numeral of a natural number. -/
def ofNat (n : Nat) : Numeral := ⟨false, Nat.toDigits 10 n, none, none⟩

def isPlain (n : Numeral) : Bool := n.fraction.isNone && n.exponent.isNone

/-- The value of a plain number without sign. -/
def natural? (n : Numeral) : Option Nat :=
  if n.isPlain ∧ !n.negative then some (digitsValue n.whole) else none

/-- The value of a plain number; a negative zero has none. -/
def integer? (n : Numeral) : Option Int :=
  if n.isPlain ∧ ¬(n.negative ∧ digitsValue n.whole = 0) then
    some (if n.negative then -(digitsValue n.whole : Int) else digitsValue n.whole)
  else
    none

/-! ## The range of double-precision numbers

A number is read as a double from its first digits, as many as fit 64 bits, and a power of ten. It is
out of range if the power is above the largest tabulated one, or if the product overflows.
-/

/-- Appends digits to a number for as long as it stays below `2 ^ 64`, and leaves the others. -/
def appendDigits (n : Nat) : List Char → Nat × List Char
  | [] => (n, [])
  | c :: cs =>
    let next := 10 * n + (c.toNat - '0'.toNat)
    if next < UInt64.size then appendDigits next cs else (n, c :: cs)

def largestPower : Int := 308

def exponentValue (n : Numeral) : Int :=
  match n.exponent with
  | none => 0
  | some e => if e.negative then -(digitsValue e.digits : Int) else digitsValue e.digits

def exceedsDouble (n : Numeral) : Bool :=
  let fraction := n.fraction.getD []
  let (leading, dropped) := appendDigits 0 n.whole
  let (significand, ignored) := appendDigits leading fraction
  let power := (dropped.length : Int) - (fraction.length - ignored.length : Nat) + n.exponentValue
  significand ≠ 0 &&
    (power > largestPower ||
      (power ≥ 0 && Text.doubleLimit ≤
        Text.roundToDouble significand * Text.roundToDouble (Nat.pow 10 power.toNat)))

end Numeral

end ExportTable.Json
