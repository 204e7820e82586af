import ExportTable.Text.Blank
import ExportTable.Text.CaseTable

/-!
# Lower case

The full, language-independent lower-casing of Unicode. Two characters need more than the table: a
capital I with dot above becomes an `i` and a combining dot, and a capital sigma takes its final form
at the end of a word, that is, when a cased letter precedes it and none follows it, case-ignorable
characters left aside.
-/

namespace ExportTable.Text

def isCased (c : Char) : Bool := inRanges casedRanges c

def isCaseIgnorable (c : Char) : Bool := inRanges caseIgnorableRanges c

/-- Whether the first character that is not case-ignorable is a cased letter. -/
def meetsCased (cs : List Char) : Bool :=
  match cs.dropWhile isCaseIgnorable with
  | c :: _ => isCased c
  | [] => false

def lowercaseChar (c : Char) : List Char :=
  if c = '\u0130' then
    ['i', '\u0307']
  else
    match lowercaseRuns.find? fun run ↦ run.covers c.toNat with
    | some run => [Char.ofNat (c.toNat + run.shift).toNat]
    | none => [c]

/-- Lower-casing after the characters `before`, which are in reverse order. -/
def lowercaseFrom (before : List Char) : List Char → List Char
  | [] => []
  | c :: rest =>
    let lowered :=
      if c = 'Σ' then [if meetsCased before && !meetsCased rest then 'ς' else 'σ']
      else lowercaseChar c
    lowered ++ lowercaseFrom (c :: before) rest

def lowercase (s : String) : String := String.ofList (lowercaseFrom [] s.toList)

end ExportTable.Text
