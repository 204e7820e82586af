import ExportTable.Proofs.Text.Lines
import ExportTable.Proofs.Version.Places

/-!
# The search for a version

The version in a describe output is what the group in `.*v(.+-\d+)-` captures, where `.` stands for
every character but the line feed. The search starts at the first place of the text where there is a
match, and there it prefers long repetitions to short ones, those on the left before those on the
right. `Pattern` lists the matches in the order in which such a search tries them.
-/

namespace ExportTable.Version

/-- The matches at the start of a text, each with what follows it, in the order of preference. -/
abbrev Pattern := List Char → List (List Char × List Char)

namespace Pattern

def one (p : Char → Bool) : Pattern
  | [] => []
  | c :: cs => if p c then [([c], cs)] else []

/-- Any number of characters, rather more than fewer. -/
def many (p : Char → Bool) : Pattern
  | [] => [([], [])]
  | c :: cs =>
    if p c then (many p cs).map (fun (found, rest) ↦ (c :: found, rest)) ++ [([], c :: cs)]
    else [([], c :: cs)]

def seq (first second : Pattern) : Pattern := fun text ↦
  (first text).flatMap fun (front, rest) ↦
    (second rest).map fun (back, rest) ↦ (front ++ back, rest)

def oneOrMore (p : Char → Bool) : Pattern := seq (one p) (many p)

/-- The matches after which the pattern `next` matches too. -/
def followedBy (next : Pattern) (found : List (List Char × List Char)) : List (List Char) :=
  found.flatMap fun (found, rest) ↦ (next rest).map fun _ ↦ found

/-- What the group captures at the start of a text, in the order of preference. -/
def captures (lead group next : Pattern) (text : List Char) : List (List Char) :=
  (lead text).flatMap fun (_, rest) ↦ followedBy next (group rest)

/-- The first capture at the first place where there is one. -/
def search (lead group next : Pattern) (text : List Char) : Option (List Char) :=
  text.tails.findSome? fun place ↦ (captures lead group next place).head?

section

variable {p : Char → Bool} {next second : Pattern} {c : Char} {cs : List Char}

theorem seq_one_nil : seq (one p) second [] = [] := rfl

theorem seq_one_cons : seq (one p) second (c :: cs) =
    if p c then (second cs).map (fun (found, rest) ↦ (c :: found, rest)) else [] := by
  cases h : p c <;> simp [seq, one, h]

theorem seq_many_nil : seq (many p) second [] = second [] := by
  simp [seq, many]

theorem seq_many_cons : seq (many p) second (c :: cs) =
    (if p c then (seq (many p) second cs).map (fun (found, rest) ↦ (c :: found, rest)) else []) ++
      second (c :: cs) := by
  cases h : p c <;> simp [seq, many, h, List.flatMap_map, List.map_flatMap, Function.comp_def]

theorem seq_assoc (first second third : Pattern) :
    seq (seq first second) third = seq first (seq second third) := by
  funext text
  simp [seq, List.flatMap_assoc, List.flatMap_map, List.map_flatMap, Function.comp_def]

/-- Any number of characters are at least one, or else none. -/
theorem seq_many (text : List Char) :
    seq (many p) second text = seq (oneOrMore p) second text ++ second text := by
  cases text with
  | nil => rw [seq_many_nil, oneOrMore, seq_assoc, seq_one_nil, List.nil_append]
  | cons c cs => rw [seq_many_cons, oneOrMore, seq_assoc, seq_one_cons]

theorem followedBy_append (found others : List (List Char × List Char)) :
    followedBy next (found ++ others) = followedBy next found ++ followedBy next others :=
  List.flatMap_append

theorem followedBy_map_cons (found : List (List Char × List Char)) :
    followedBy next (found.map fun (found, rest) ↦ (c :: found, rest)) =
      (followedBy next found).map (c :: ·) := by
  simp [followedBy, List.flatMap_map, List.map_flatMap]

end

end Pattern

open Pattern

/-! ## The pattern -/

def isInLine (c : Char) : Bool := c ≠ '\n'

/-- `.*v` -/
def leadPattern : Pattern := seq (many isInLine) (one (· = 'v'))

/-- `-\d+` -/
def countPattern : Pattern := seq (one (· = '-')) (oneOrMore Text.isDecimalDigit)

/-- `.+-\d+` -/
def versionPattern : Pattern := seq (oneOrMore isInLine) countPattern

/-- `-` -/
def hyphenPattern : Pattern := one (· = '-')

/-! ## Preferred matches -/

theorem followedBy_hyphen (found rest : List Char) :
    followedBy hyphenPattern [(found, rest)] = if rest.head? = some '-' then [found] else [] := by
  cases rest with
  | nil => rfl
  | cons c cs => by_cases h : c = '-' <;> simp [followedBy, hyphenPattern, one, h]

/-- Digits have a hyphen after them only if there are no more of them. -/
theorem followedBy_digits (text : List Char) :
    followedBy hyphenPattern (many Text.isDecimalDigit text) =
      if (text.dropWhile Text.isDecimalDigit).head? = some '-' then
        [text.takeWhile Text.isDecimalDigit]
      else [] := by
  induction text with
  | nil => rfl
  | cons c cs ih =>
    cases hdigit : Text.isDecimalDigit c with
    | true =>
      have hhyphen : (c :: cs).head? ≠ some '-' := by
        rintro ⟨rfl⟩
        exact absurd hdigit (by decide)
      rw [many, if_pos hdigit, followedBy_append, followedBy_map_cons, ih, followedBy_hyphen,
        if_neg hhyphen, List.append_nil, List.dropWhile_cons_of_pos hdigit,
        List.takeWhile_cons_of_pos hdigit]
      split <;> rfl
    | false =>
      have hother : ¬ Text.isDecimalDigit c := by simp [hdigit]
      rw [many, if_neg hother, followedBy_hyphen, List.dropWhile_cons_of_neg hother,
        List.takeWhile_cons_of_neg hother]

theorem head?_countPattern (text : List Char) :
    (followedBy hyphenPattern (countPattern text)).head? = commitCount? text := by
  cases text with
  | nil => rfl
  | cons c cs =>
    by_cases hhyphen : c = '-'
    · subst hhyphen
      rw [countPattern, seq_one_cons, if_pos (by decide), followedBy_map_cons, List.head?_map,
        commitCount?, oneOrMore]
      cases cs with
      | nil => rfl
      | cons d ds =>
        cases hdigit : Text.isDecimalDigit d with
        | true =>
          rw [seq_one_cons, if_pos hdigit, followedBy_map_cons, followedBy_digits,
            List.takeWhile_cons_of_pos hdigit, List.dropWhile_cons_of_pos hdigit]
          split <;> simp_all
        | false => simp [seq_one_cons, followedBy, hdigit]
    · rw [countPattern, seq_one_cons, if_neg (by simpa using hhyphen)]
      simp [followedBy, commitCount?, hhyphen]

theorem followedBy_versionPattern_cons (c : Char) (cs : List Char) :
    followedBy hyphenPattern (versionPattern (c :: cs)) =
      if isInLine c then
        (followedBy hyphenPattern (versionPattern cs) ++
          followedBy hyphenPattern (countPattern cs)).map (c :: ·)
      else [] := by
  rw [versionPattern, oneOrMore, seq_assoc, seq_one_cons]
  split
  · rw [followedBy_map_cons, seq_many, followedBy_append, oneOrMore, seq_assoc]
  · rfl

theorem isInLine_of_isDecimalDigit {c : Char} (h : Text.isDecimalDigit c) : isInLine c := by
  have hfeed : c ≠ '\n' := by
    rintro rfl
    exact absurd h (by decide)
  simp [isInLine, hfeed]

/-- A commit count and the hyphen after it stand on one line. -/
theorem commitCount?_takeWhile (text : List Char) :
    commitCount? (text.takeWhile isInLine) = commitCount? text := by
  ext count
  rw [commitCount?_eq_some_iff, commitCount?_eq_some_iff]
  refine and_congr_right fun hcount ↦ ⟨fun h ↦ h.trans (List.takeWhile_prefix _), ?_⟩
  rintro ⟨rest, rfl⟩
  have hline : ∀ c ∈ count ++ ['-'], isInLine c := by
    obtain ⟨digits, rfl, _, hdigits⟩ := hcount
    intro c hc
    rcases List.mem_append.mp hc with hc | hc
    · rcases List.mem_cons.mp hc with rfl | hc
      · decide
      · exact isInLine_of_isDecimalDigit (hdigits c hc)
    · rw [List.mem_singleton.mp hc]
      decide
  rw [List.takeWhile_append_of_pos hline]
  exact List.prefix_append _ _

theorem head?_versionPattern (text : List Char) :
    (followedBy hyphenPattern (versionPattern text)).head? =
      longestVersion? (text.takeWhile isInLine) := by
  induction text with
  | nil => rfl
  | cons c cs ih =>
    rw [followedBy_versionPattern_cons]
    cases hline : isInLine c with
    | true =>
      rw [if_pos rfl, List.takeWhile_cons_of_pos hline, longestVersion?, List.head?_map,
        List.head?_append, ih, head?_countPattern, commitCount?_takeWhile]
    | false => simp [hline, longestVersion?]

theorem captures_cons (c : Char) (cs : List Char) :
    captures leadPattern versionPattern hyphenPattern (c :: cs) =
      if isInLine c then
        captures leadPattern versionPattern hyphenPattern cs ++
          if c = 'v' then followedBy hyphenPattern (versionPattern cs) else []
      else [] := by
  have hnext : (one (· = 'v') (c :: cs)).flatMap
      (fun (_, rest) ↦ followedBy hyphenPattern (versionPattern rest)) =
        if c = 'v' then followedBy hyphenPattern (versionPattern cs) else [] := by
    by_cases h : c = 'v' <;> simp [one, h]
  rw [captures, leadPattern, seq_many_cons, List.flatMap_append, hnext]
  by_cases hfeed : c = '\n'
  · subst hfeed
    rfl
  · have hline : isInLine c := by simp [isInLine, hfeed]
    rw [if_pos hline, if_pos hline, List.flatMap_map]
    rfl

theorem head?_captures (text : List Char) :
    (captures leadPattern versionPattern hyphenPattern text).head? =
      lastVersion? none (text.takeWhile isInLine) := by
  induction text with
  | nil => rfl
  | cons c cs ih =>
    rw [captures_cons]
    cases hline : isInLine c with
    | true =>
      rw [if_pos rfl, List.takeWhile_cons_of_pos hline, lastVersion?_cons, List.head?_append, ih]
      split
      · rw [head?_versionPattern]
      · rfl
    | false => simp [hline, lastVersion?]

theorem findSome?_cons_eq_or {α β : Type} (f : α → Option β) (a : α) (l : List α) :
    (a :: l).findSome? f = (f a).or (l.findSome? f) := by
  rw [List.findSome?_cons]
  cases f a <;> rfl

/-- Where a line has a version, the first place with a match is the start of that line. -/
theorem search_eq_findSome? (text : List Char) :
    search leadPattern versionPattern hyphenPattern text =
      (text.splitOn '\n').findSome? (lastVersion? none) := by
  induction text with
  | nil => rfl
  | cons c cs ih =>
    have hcons : search leadPattern versionPattern hyphenPattern (c :: cs) =
        (lastVersion? none ((c :: cs).takeWhile isInLine)).or
          ((cs.splitOn '\n').findSome? (lastVersion? none)) := by
      rw [search, List.tails_cons, findSome?_cons_eq_or, head?_captures, ← ih, search]
    by_cases hfeed : c = '\n'
    · have hsplit : (c :: cs).splitOn '\n' = [] :: cs.splitOn '\n' := by
        rw [List.splitOn_cons_eq_if_modifyHead, if_pos (by simpa using hfeed)]
      rw [hcons, hsplit, findSome?_cons_eq_or,
        List.takeWhile_cons_of_neg (by simp [isInLine, hfeed])]
    · obtain ⟨later, hlater⟩ : ∃ later, cs.splitOn '\n' = cs.takeWhile isInLine :: later :=
        Text.exists_splitOn_eq '\n' cs
      have hsplit : (c :: cs).splitOn '\n' = (c :: cs.takeWhile isInLine) :: later := by
        rw [List.splitOn_cons_eq_if_modifyHead, if_neg (by simpa using hfeed), hlater,
          List.modifyHead_cons]
      rw [hcons, hsplit, hlater, findSome?_cons_eq_or, findSome?_cons_eq_or,
        List.takeWhile_cons_of_pos (by simp [isInLine, hfeed]), lastVersion?_cons]
      -- What the rest of the line offers has been preferred already.
      cases lastVersion? none (cs.takeWhile isInLine) with
      | none => rw [Option.none_or, Option.none_or]
      | some version => simp only [Option.some_or]

/-- The version is what the search captures. There is one exactly if some line has a `v` with a
version after it, and it stands in the first such line, after the last such `v`, and is the longest
one there. -/
theorem describedVersion?_eq_search (output : String) :
    (describedVersion? output).map String.toList =
        search leadPattern versionPattern hyphenPattern (Text.trim output.toList) ∧
      ((describedVersion? output).isSome ↔
        ∃ line ∈ (Text.trim output.toList).splitOn '\n', NamesVersion line) ∧
      ∀ version, describedVersion? output = some version ↔
        ∃ earlier line later,
          (Text.trim output.toList).splitOn '\n' = earlier ++ line :: later ∧
            (∀ other ∈ earlier, ¬ NamesVersion other) ∧ IsLastVersion version.toList line := by
  refine ⟨?_, isSome_describedVersion?_iff, fun version ↦ describedVersion?_eq_some_iff⟩
  rw [describedVersion?, search_eq_findSome?, Option.map_map]
  have hinverse : String.toList ∘ String.ofList = id := funext fun _ ↦ String.toList_ofList
  rw [hinverse, Option.map_id, id]

end ExportTable.Version
