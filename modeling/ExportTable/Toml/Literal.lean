import ExportTable.Text.Hexadecimal
import ExportTable.Toml.Gap

/-!
# String literals of TOML

A basic string has escapes, a literal string has none. Both have a form of several lines between
three quotes, whose line ends are read as line feeds. At the end of such a string up to two quotes
may stand before the closing ones, and a backslash at the end of a line skips to the next character
that is not blank.

The functions read what stands after the opening quotes, and give the text and what follows it.
-/

namespace ExportTable.Toml

def hexEscape? (count : Nat) (cs : List Char) : Option (Char × List Char) :=
  if cs.length < count then none
  else
    match Text.hexValue? (cs.take count) with
    | none => none
    | some n => if n.isValidChar then some (Char.ofNat n, cs.drop count) else none

/-- The character that an escape stands for, the backslash being read. -/
def escape? : List Char → Option (Char × List Char)
  | 'b' :: cs => some ('\x08', cs)
  | 'f' :: cs => some ('\x0c', cs)
  | 'n' :: cs => some ('\n', cs)
  | 'r' :: cs => some ('\r', cs)
  | 't' :: cs => some ('\t', cs)
  | '"' :: cs => some ('"', cs)
  | '\\' :: cs => some ('\\', cs)
  | 'u' :: cs => hexEscape? 4 cs
  | 'U' :: cs => hexEscape? 8 cs
  | _ => none

theorem length_le_of_hexEscape? {count : Nat} {cs rest : List Char} {c : Char}
    (h : hexEscape? count cs = some (c, rest)) : rest.length ≤ cs.length := by
  unfold hexEscape? at h
  split at h
  · contradiction
  split at h
  · contradiction
  split at h
  · cases h; simp
  · contradiction

theorem length_lt_of_escape? {cs rest : List Char} {c : Char} (h : escape? cs = some (c, rest)) :
    rest.length < cs.length := by
  unfold escape? at h
  split at h
  case h_8 => exact Nat.lt_succ_of_le (length_le_of_hexEscape? h)
  case h_9 => exact Nat.lt_succ_of_le (length_le_of_hexEscape? h)
  all_goals cases h
  all_goals simp

def basicString (cs : List Char) : Option (List Char × List Char) :=
  match cs with
  | [] => none
  | '"' :: rest => some ([], rest)
  | '\\' :: rest =>
    match _h : escape? rest with
    | some (c, rest) => (basicString rest).map fun (text, rest) ↦ (c :: text, rest)
    | none => none
  | c :: rest =>
    if isVisible c then (basicString rest).map fun (text, rest) ↦ (c :: text, rest) else none
termination_by cs.length
decreasing_by
  · have := length_lt_of_escape? _h; simp; omega
  · simp

def literalString (cs : List Char) : Option (List Char × List Char) :=
  match cs.span fun c ↦ isVisible c && c ≠ '\'' with
  | (text, '\'' :: rest) => some (text, rest)
  | _ => none

/-- What a run of quotes ends, `further` being the quotes after the first: three to five quotes end
the string, and all but three of them belong to it. -/
def closing? (quote : Char) (cs : List Char) : Option (Option (List Char × List Char)) :=
  let further := (cs.takeWhile (· = quote)).length
  if further < 2 then none
  else if further ≤ 4 then some (some (List.replicate (further - 2) quote, cs.drop further))
  else some none

def startsBlankLine (cs : List Char) : Bool := (newline? (skipBlanks cs)).isSome

/-- In the state `trimming` blanks and line ends are skipped. -/
def multilineBasic (trimming : Bool) (cs : List Char) : Option (List Char × List Char) :=
  let continueWith (c : Char) (rest : List Char) (_ : rest.length < cs.length) :=
    (multilineBasic false rest).map fun (text, rest) ↦ (c :: text, rest)
  match h : cs with
  | [] => none
  | '\r' :: '\n' :: rest =>
    if trimming then multilineBasic true rest else continueWith '\n' rest (by simp only [h, List.length_cons]; omega)
  | '\\' :: rest =>
    if startsBlankLine rest then multilineBasic true rest
    else
      match he : escape? rest with
      | some (c, rest) =>
        continueWith c rest (by simpa [h] using Nat.lt_succ_of_lt (length_lt_of_escape? he))
      | none => none
  | c :: rest =>
    if c = '"' then
      match closing? '"' rest with
      | some result => result
      | none => continueWith c rest (by simp [h])
    else if trimming ∧ (isBlank c ∨ c = '\n') then multilineBasic true rest
    else if isVisible c ∨ c = '\n' then continueWith c rest (by simp [h])
    else none
termination_by cs.length

def multilineLiteral : List Char → Option (List Char × List Char)
  | [] => none
  | '\r' :: '\n' :: rest => (multilineLiteral rest).map fun (text, rest) ↦ ('\n' :: text, rest)
  | c :: rest =>
    let continued := (multilineLiteral rest).map fun (text, rest) ↦ (c :: text, rest)
    if c = '\'' then
      match closing? '\'' rest with
      | some result => result
      | none => continued
    else if isVisible c ∨ c = '\n' then continued
    else none

/-- A line end right after the opening quotes of a string of several lines is no part of it. -/
def skipFirstNewline (cs : List Char) : List Char := (newline? cs).getD cs

end ExportTable.Toml
