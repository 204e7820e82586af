/-!
# The range of double-precision numbers

A real number is read as the nearest double, a tie going to the even neighbour. From `doubleLimit`
on it is read as infinity.
-/

namespace ExportTable.Text

/-- Half a unit in the last place above the largest finite double. -/
def doubleLimit : Nat := Nat.pow 2 1024 - Nat.pow 2 970

/-- The nearest natural number with at most 53 significant binary digits. -/
def roundToDouble (n : Nat) : Nat :=
  let shift := n.log2 - 52
  let quotient := n >>> shift
  let twice := 2 * (n - quotient <<< shift)
  let roundsUp := Nat.pow 2 shift < twice ∨ (twice = Nat.pow 2 shift ∧ quotient % 2 = 1)
  (if roundsUp then quotient + 1 else quotient) <<< shift

/-- Whether `significand * 10 ^ power` is read as infinity. No double reaches `10 ^ 309`, and all
numbers below `10 ^ 308` are in range. -/
def overflowsDouble (significand : Nat) (power : Int) : Bool :=
  let places := (Nat.toDigits 10 significand).length + power
  significand ≠ 0 &&
    (places > 309 ||
      (places = 309 &&
        doubleLimit * Nat.pow 10 (-power).toNat ≤ significand * Nat.pow 10 power.toNat))

end ExportTable.Text
