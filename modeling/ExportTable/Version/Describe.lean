import ExportTable.Text.Blank
import ExportTable.Text.DecimalDigit

/-!
# Describe output

The output of a describe command names a tag `v1.2.3`, the number of commits since that tag and a
hash, as in `v1.2.3-47-gabc1234`. The version is the part `1.2.3-47`: after some `v`, at least one
character, a hyphen and decimal digits, with one more hyphen after them.

The first line with such a part decides; in it the last `v` that starts one; and after that `v` the
longest one.
-/

namespace ExportTable.Version

/-- A hyphen and decimal digits that start the text and have a hyphen after them. -/
def commitCount? : List Char → Option (List Char)
  | '-' :: cs =>
    let digits := cs.takeWhile Text.isDecimalDigit
    if digits ≠ [] ∧ (cs.dropWhile Text.isDecimalDigit).head? = some '-' then some ('-' :: digits)
    else none
  | _ => none

/-- The longest version that starts the text. -/
def longestVersion? : List Char → Option (List Char)
  | [] => none
  | c :: cs => ((longestVersion? cs).or (commitCount? cs)).map (c :: ·)

/-- The longest version after the last `v` that has one after it, or else `found`. -/
def lastVersion? (found : Option (List Char)) : List Char → Option (List Char)
  | [] => found
  | c :: cs => lastVersion? (if c = 'v' then (longestVersion? cs).or found else found) cs

def describedVersion? (output : String) : Option String :=
  ((Text.trim output.toList).splitOn '\n').findSome? (lastVersion? none) |>.map String.ofList

end ExportTable.Version
