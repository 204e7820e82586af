import ExportTable.Version.Describe
import Mathlib.Data.List.Infix
import Mathlib.Data.List.TakeWhile

/-!
# Versions in describe output

Which version a describe output names, said without the scan for it. The first line with a version
decides; the version starts after the last `v` of that line that has one after it; and of the
versions that start there it is the longest.
-/

namespace ExportTable.Version

/-- A hyphen and decimal digits. -/
def IsCount (count : List Char) : Prop :=
  ∃ digits, count = '-' :: digits ∧ digits ≠ [] ∧ ∀ c ∈ digits, Text.isDecimalDigit c

/-- At least one character, a hyphen and decimal digits. -/
def IsVersion (version : List Char) : Prop :=
  ∃ front count, version = front ++ count ∧ front ≠ [] ∧ IsCount count

/-- The version starts the text and has a hyphen after it. -/
def Starts (version text : List Char) : Prop :=
  IsVersion version ∧ version ++ ['-'] <+: text

structure IsLongest (version text : List Char) : Prop where
  starts : Starts version text
  length_le : ∀ other, Starts other text → other.length ≤ version.length

/-- A version starts after some `v` of the line. -/
def NamesVersion (line : List Char) : Prop :=
  ∃ before after version, line = before ++ 'v' :: after ∧ Starts version after

/-- The version is the longest one after a `v` of the line, and none starts after a later `v`. -/
def IsLastVersion (version line : List Char) : Prop :=
  ∃ before after, line = before ++ 'v' :: after ∧ IsLongest version after ∧ ¬ NamesVersion after

/-! ## Commit counts -/

theorem IsCount.hyphen_notMem {digits : List Char} (h : IsCount ('-' :: digits)) :
    '-' ∉ digits := by
  obtain ⟨_, heq, _, hdigits⟩ := h
  obtain rfl := (List.cons.inj heq).2
  intro hmem
  exact absurd (hdigits '-' hmem) (by decide)

theorem commitCount?_eq_some_iff {count text : List Char} :
    commitCount? text = some count ↔ IsCount count ∧ count ++ ['-'] <+: text := by
  constructor
  · intro h
    unfold commitCount? at h
    split at h
    · next cs =>
      dsimp only at h
      split at h
      · next hcount =>
        obtain ⟨hdigits, hhyphen⟩ := hcount
        obtain rfl := Option.some.inj h
        obtain ⟨rest, hrest⟩ := List.head?_eq_some_iff.mp hhyphen
        refine ⟨⟨_, rfl, hdigits, fun c ↦ List.mem_takeWhile_imp⟩, rest, ?_⟩
        rw [List.append_assoc, List.singleton_append, ← hrest, List.cons_append,
          List.takeWhile_append_dropWhile]
      · cases h
    · cases h
  · rintro ⟨⟨digits, rfl, hne, hdigits⟩, rest, rfl⟩
    have htext : '-' :: digits ++ ['-'] ++ rest = '-' :: (digits ++ '-' :: rest) := by simp
    have htake : (digits ++ '-' :: rest).takeWhile Text.isDecimalDigit = digits := by
      rw [List.takeWhile_append_of_pos hdigits, List.takeWhile_cons_of_neg (by decide),
        List.append_nil]
    have hdrop : (digits ++ '-' :: rest).dropWhile Text.isDecimalDigit = '-' :: rest := by
      rw [List.dropWhile_append_of_pos hdigits, List.dropWhile_cons_of_neg (by decide)]
    rw [htext, commitCount?, htake, hdrop]
    simp [hne]

/-- Nothing shorter than a commit count has a hyphen after it. -/
theorem length_le_of_commitCount? {count found text : List Char}
    (h : commitCount? text = some count) (hne : found ≠ []) (hfound : found ++ ['-'] <+: text) :
    count.length ≤ found.length := by
  obtain ⟨hcount, hprefix⟩ := commitCount?_eq_some_iff.mp h
  by_contra hlt
  have hinside : found ++ ['-'] <+: count := by
    refine List.prefix_of_prefix_length_le hfound ((List.prefix_append _ _).trans hprefix) ?_
    rw [List.length_append, List.length_singleton]
    exact Nat.lt_of_not_le hlt
  obtain ⟨c, rest, rfl⟩ := List.exists_cons_of_ne_nil hne
  obtain ⟨digits, rfl, _⟩ := id hcount
  have hdigits : rest ++ ['-'] <+: digits := (List.cons_prefix_cons.mp hinside).2
  exact hcount.hyphen_notMem (hdigits.subset (by simp))

/-! ## The longest version -/

theorem not_starts_nil (version : List Char) : ¬ Starts version [] := by
  rintro ⟨_, hprefix⟩
  simpa using List.prefix_nil.mp hprefix

theorem Starts.ne_nil {version text : List Char} (h : Starts version text) : version ≠ [] := by
  obtain ⟨⟨front, count, rfl, hfront, _⟩, _⟩ := h
  exact List.append_ne_nil_of_left_ne_nil hfront _

theorem starts_cons_iff {version : List Char} {c : Char} {cs : List Char} :
    Starts version (c :: cs) ↔
      ∃ rest, version = c :: rest ∧ (Starts rest cs ∨ commitCount? cs = some rest) := by
  constructor
  · rintro ⟨⟨front, count, rfl, hfront, hcount⟩, hprefix⟩
    obtain ⟨d, front, rfl⟩ := List.exists_cons_of_ne_nil hfront
    obtain ⟨rfl, hrest⟩ := List.cons_prefix_cons.mp hprefix
    refine ⟨front ++ count, rfl, ?_⟩
    cases front with
    | nil => exact .inr (commitCount?_eq_some_iff.mpr ⟨hcount, hrest⟩)
    | cons e front => exact .inl ⟨⟨_, count, rfl, List.cons_ne_nil _ _, hcount⟩, hrest⟩
  · rintro ⟨rest, rfl, ⟨⟨front, count, rfl, _, hcount⟩, hprefix⟩ | hcount⟩
    · exact ⟨⟨c :: front, count, rfl, List.cons_ne_nil _ _, hcount⟩,
        List.cons_prefix_cons.mpr ⟨rfl, hprefix⟩⟩
    · obtain ⟨hcount, hprefix⟩ := commitCount?_eq_some_iff.mp hcount
      exact ⟨⟨[c], rest, rfl, List.cons_ne_nil _ _, hcount⟩,
        List.cons_prefix_cons.mpr ⟨rfl, hprefix⟩⟩

theorem longestVersion?_cases (text : List Char) :
    (∃ version, longestVersion? text = some version ∧ IsLongest version text) ∨
      (longestVersion? text = none ∧ ∀ version, ¬ Starts version text) := by
  induction text with
  | nil => exact .inr ⟨rfl, not_starts_nil⟩
  | cons c cs ih =>
    rw [longestVersion?]
    rcases ih with ⟨version, hversion, hlongest⟩ | ⟨hnone, hstarts⟩
    · refine .inl ⟨c :: version, by rw [hversion]; rfl,
        starts_cons_iff.mpr ⟨version, rfl, .inl hlongest.starts⟩, ?_⟩
      intro other hother
      obtain ⟨rest, rfl, hrest | hcount⟩ := starts_cons_iff.mp hother
      · exact Nat.succ_le_succ (hlongest.length_le rest hrest)
      · exact Nat.succ_le_succ
          (length_le_of_commitCount? hcount hlongest.starts.ne_nil hlongest.starts.2)
    · rw [hnone, Option.none_or]
      cases hcount : commitCount? cs with
      | some count =>
        refine .inl ⟨c :: count, rfl, starts_cons_iff.mpr ⟨count, rfl, .inr hcount⟩, ?_⟩
        intro other hother
        obtain ⟨rest, rfl, hrest | hagain⟩ := starts_cons_iff.mp hother
        · exact absurd hrest (hstarts rest)
        · rw [Option.some.inj (hagain.symm.trans hcount)]
      | none =>
        refine .inr ⟨rfl, fun version hversion ↦ ?_⟩
        obtain ⟨rest, rfl, hrest | hagain⟩ := starts_cons_iff.mp hversion
        · exact hstarts rest hrest
        · cases hagain.symm.trans hcount

theorem IsLongest.unique {version other text : List Char} (h : IsLongest version text)
    (hother : IsLongest other text) : version = other := by
  have hlength : version.length = other.length :=
    Nat.le_antisymm (hother.length_le version h.starts) (h.length_le other hother.starts)
  have hprefix : version <+: other :=
    List.prefix_of_prefix_length_le ((List.prefix_append _ _).trans h.starts.2)
      ((List.prefix_append _ _).trans hother.starts.2) hlength.le
  exact hprefix.eq_of_length hlength

theorem longestVersion?_eq_some_iff {version text : List Char} :
    longestVersion? text = some version ↔ IsLongest version text := by
  rcases longestVersion?_cases text with ⟨found, hfound, hlongest⟩ | ⟨hnone, hstarts⟩
  · rw [hfound, Option.some_inj]
    exact ⟨fun h ↦ h ▸ hlongest, hlongest.unique⟩
  · rw [hnone]
    exact iff_of_false nofun fun h ↦ hstarts version h.starts

theorem longestVersion?_eq_none_iff {text : List Char} :
    longestVersion? text = none ↔ ∀ version, ¬ Starts version text := by
  rcases longestVersion?_cases text with ⟨found, hfound, hlongest⟩ | ⟨hnone, hstarts⟩
  · rw [hfound]
    exact iff_of_false nofun fun h ↦ h found hlongest.starts
  · exact iff_of_true hnone hstarts

/-! ## The last version of a line -/

theorem lastVersion?_eq_or (found : Option (List Char)) (line : List Char) :
    lastVersion? found line = (lastVersion? none line).or found := by
  induction line generalizing found with
  | nil => rfl
  | cons c cs ih =>
    rw [lastVersion?, lastVersion?, ih, ih (if c = 'v' then _ else _), Option.or_assoc]
    split
    · rw [Option.or_none]
    · rfl

theorem lastVersion?_cons (c : Char) (cs : List Char) :
    lastVersion? none (c :: cs) =
      (lastVersion? none cs).or (if c = 'v' then longestVersion? cs else none) := by
  rw [lastVersion?, lastVersion?_eq_or, Option.or_none]

theorem not_namesVersion_nil : ¬ NamesVersion [] := by
  rintro ⟨before, after, _, heq, _⟩
  simp at heq

theorem namesVersion_cons_iff {c : Char} {cs : List Char} :
    NamesVersion (c :: cs) ↔ NamesVersion cs ∨ (c = 'v' ∧ ∃ version, Starts version cs) := by
  constructor
  · rintro ⟨before, after, version, heq, hstarts⟩
    cases before with
    | nil =>
      obtain ⟨rfl, rfl⟩ := List.cons.inj heq
      exact .inr ⟨rfl, version, hstarts⟩
    | cons d before => exact .inl ⟨before, after, version, (List.cons.inj heq).2, hstarts⟩
  · rintro (⟨before, after, version, rfl, hstarts⟩ | ⟨rfl, version, hstarts⟩)
    · exact ⟨c :: before, after, version, rfl, hstarts⟩
    · exact ⟨[], cs, version, rfl, hstarts⟩

theorem isLastVersion_cons_iff {version : List Char} {c : Char} {cs : List Char} :
    IsLastVersion version (c :: cs) ↔
      IsLastVersion version cs ∨ (¬ NamesVersion cs ∧ c = 'v' ∧ IsLongest version cs) := by
  constructor
  · rintro ⟨before, after, heq, hlongest, hlater⟩
    cases before with
    | nil =>
      obtain ⟨rfl, rfl⟩ := List.cons.inj heq
      exact .inr ⟨hlater, rfl, hlongest⟩
    | cons d before => exact .inl ⟨before, after, (List.cons.inj heq).2, hlongest, hlater⟩
  · rintro (⟨before, after, rfl, hlongest, hlater⟩ | ⟨hlater, rfl, hlongest⟩)
    · exact ⟨c :: before, after, rfl, hlongest, hlater⟩
    · exact ⟨[], cs, rfl, hlongest, hlater⟩

theorem lastVersion?_eq_none_iff {line : List Char} :
    lastVersion? none line = none ↔ ¬ NamesVersion line := by
  induction line with
  | nil => exact iff_of_true rfl not_namesVersion_nil
  | cons c cs ih =>
    rw [lastVersion?_cons, Option.or_eq_none_iff, ih, namesVersion_cons_iff, not_or]
    by_cases hc : c = 'v' <;> simp [hc, longestVersion?_eq_none_iff]

theorem lastVersion?_eq_some_iff {version line : List Char} :
    lastVersion? none line = some version ↔ IsLastVersion version line := by
  induction line with
  | nil =>
    refine iff_of_false nofun ?_
    rintro ⟨before, after, heq, _⟩
    simp at heq
  | cons c cs ih =>
    rw [lastVersion?_cons, Option.or_eq_some_iff, ih, lastVersion?_eq_none_iff,
      isLastVersion_cons_iff]
    by_cases hc : c = 'v' <;> simp [hc, longestVersion?_eq_some_iff]

/-! ## The described version -/

theorem describedVersion?_eq_some_iff {output version : String} :
    describedVersion? output = some version ↔
      ∃ earlier line later,
        (Text.trim output.toList).splitOn '\n' = earlier ++ line :: later ∧
          (∀ other ∈ earlier, ¬ NamesVersion other) ∧ IsLastVersion version.toList line := by
  rw [describedVersion?, Option.map_eq_some_iff]
  constructor
  · rintro ⟨found, hfound, rfl⟩
    obtain ⟨earlier, line, later, hlines, hline, hearlier⟩ := List.findSome?_eq_some_iff.mp hfound
    refine ⟨earlier, line, later, hlines, ?_, ?_⟩
    · exact fun other hother ↦ lastVersion?_eq_none_iff.mp (hearlier other hother)
    · rw [String.toList_ofList]
      exact lastVersion?_eq_some_iff.mp hline
  · rintro ⟨earlier, line, later, hlines, hearlier, hline⟩
    refine ⟨version.toList, List.findSome?_eq_some_iff.mpr ?_, String.ofList_toList⟩
    exact ⟨earlier, line, later, hlines, lastVersion?_eq_some_iff.mpr hline,
      fun other hother ↦ lastVersion?_eq_none_iff.mpr (hearlier other hother)⟩

theorem isSome_describedVersion?_iff {output : String} :
    (describedVersion? output).isSome ↔
      ∃ line ∈ (Text.trim output.toList).splitOn '\n', NamesVersion line := by
  rw [describedVersion?, Option.isSome_map, List.findSome?_isSome_iff]
  refine exists_congr fun line ↦ and_congr_right fun _ ↦ ?_
  rw [Option.isSome_iff_ne_none, ne_eq, lastVersion?_eq_none_iff, not_not]

end ExportTable.Version
