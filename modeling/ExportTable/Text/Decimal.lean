/-!
# Unsigned decimal text

`unsigned?` reads ASCII decimal digits after an optional plus sign; leading zeros are allowed and the
value has to stay below a bound. `digits` writes a number in the shortest such form.
-/

namespace ExportTable.Text

def digits (n : Nat) : List Char := Nat.toDigits 10 n

def unsigned? (bound : Nat) (cs : List Char) : Option Nat :=
  let ds := match cs with
    | '+' :: rest => rest
    | _ => cs
  if ds ≠ [] ∧ ds.all Char.isDigit ∧ Nat.ofDigitChars 10 ds 0 < bound then
    some (Nat.ofDigitChars 10 ds 0)
  else
    none

end ExportTable.Text
