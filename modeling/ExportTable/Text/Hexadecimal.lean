/-!
# Hexadecimal digits
-/

namespace ExportTable.Text

def hexDigitValue? (c : Char) : Option Nat :=
  if c.isDigit then some (c.toNat - '0'.toNat)
  else if 'a' ≤ c ∧ c ≤ 'f' then some (c.toNat - 'a'.toNat + 10)
  else if 'A' ≤ c ∧ c ≤ 'F' then some (c.toNat - 'A'.toNat + 10)
  else none

/-- The number that digits of either case spell. -/
def hexValue? (cs : List Char) : Option Nat :=
  cs.foldlM (fun n c ↦ (hexDigitValue? c).map (16 * n + ·)) 0

end ExportTable.Text
