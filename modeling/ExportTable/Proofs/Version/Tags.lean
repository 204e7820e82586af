import ExportTable.Proofs.Text.Lines
import ExportTable.Proofs.Version.Places

/-!
# Tags in describe output

What becomes of the tag `v<version>` when its commit count and hash are printed after it. The
described version is the tag's version with the count if no `v` stands in that version before its
last character. Otherwise it starts after the last such `v`, and the front of the tag's version is
lost.
-/

namespace ExportTable.Version

/-- A text with a hyphen behind it does not reach past the last hyphen. -/
theorem length_le_of_hyphen_notMem {found text rest : List Char} (hrest : '-' ∉ rest)
    (h : found ++ ['-'] <+: text ++ '-' :: rest) : found.length ≤ text.length := by
  obtain ⟨later, hlater⟩ := h
  rw [List.append_assoc, List.singleton_append, List.append_eq_append_iff] at hlater
  rcases hlater with ⟨gap, rfl, _⟩ | ⟨gap, rfl, hgap⟩
  · rw [List.length_append]
    exact Nat.le_add_right _ _
  · cases gap with
    | nil => rw [List.append_nil]
    | cons c gap =>
      obtain ⟨_, rfl⟩ := List.cons.inj hgap
      exact absurd (List.mem_append_right gap List.mem_cons_self) hrest

/-- The last `v` that has a character after it. -/
theorem exists_last {tag : List Char} (h : 'v' ∈ tag.dropLast) :
    ∃ front tail, tag = front ++ 'v' :: tail ∧ tail ≠ [] ∧ 'v' ∉ tail.dropLast := by
  induction tag with
  | nil => cases h
  | cons c cs ih =>
    by_cases hlater : 'v' ∈ cs.dropLast
    · obtain ⟨front, tail, rfl, htail⟩ := ih hlater
      exact ⟨c :: front, tail, rfl, htail⟩
    · have hne : cs ≠ [] := by
        rintro rfl
        cases h
      rw [List.dropLast_cons_of_ne_nil hne] at h
      obtain rfl := (List.mem_cons.mp h).resolve_right hlater
      exact ⟨[], cs, rfl, hne, hlater⟩

def hashDigits : List Char := "0123456789abcdef".toList

/-- What is printed for the tag `v<version>`: the tag, the number of commits since and a hash, among
blanks. -/
structure Description where
  version : List Char
  count : List Char
  hash : List Char
  before : List Char
  after : List Char
  starts_with_digit : version.head?.any Text.isDecimalDigit
  version_not_blank : version.all (!Text.isBlank ·)
  count_ne_nil : count ≠ []
  count_digits : count.all Text.isDecimalDigit
  hash_ne_nil : hash ≠ []
  hash_digits : hash.all hashDigits.contains
  before_blank : before.all Text.isBlank
  after_blank : after.all Text.isBlank

theorem notMem_of_all {test : Char → Bool} {text : List Char} (h : text.all test) {c : Char}
    (hc : test c = false) : c ∉ text := by
  intro hmem
  rw [List.all_eq_true.mp h c hmem] at hc
  cases hc

theorem isBlank_of_mem_hashDigits {c : Char} (h : c ∈ hashDigits) : Text.isBlank c = false := by
  have hdigits : hashDigits.all (!Text.isBlank ·) := by decide
  simpa using List.all_eq_true.mp hdigits c h

namespace Description

/-- What follows the tag. -/
def ending (description : Description) : List Char :=
  '-' :: description.count ++ '-' :: 'g' :: description.hash

def line (description : Description) : List Char :=
  'v' :: description.version ++ description.ending

def text (description : Description) : String :=
  String.ofList (description.before ++ (description.line ++ description.after))

variable (description : Description)

theorem version_ne_nil : description.version ≠ [] := by
  intro hnil
  have hdigit := description.starts_with_digit
  rw [hnil] at hdigit
  cases hdigit

theorem notMem_count {c : Char} (h : Text.isDecimalDigit c = false) : c ∉ description.count :=
  notMem_of_all description.count_digits h

theorem notMem_hash {c : Char} (h : hashDigits.contains c = false) : c ∉ description.hash :=
  notMem_of_all description.hash_digits h

theorem feed_notMem_line : '\n' ∉ description.line := by
  have hversion : '\n' ∉ description.version :=
    notMem_of_all description.version_not_blank (by decide)
  simp [line, ending, hversion, description.notMem_count (c := '\n') (by decide),
    description.notMem_hash (c := '\n') (by decide)]

theorem getLast?_line : description.line.getLast? = description.hash.getLast? := by
  obtain ⟨c, cs, hhash⟩ := List.exists_cons_of_ne_nil description.hash_ne_nil
  rw [line, ending, hhash, List.getLast?_append, List.getLast?_append, List.getLast?_cons_cons,
    List.getLast?_cons_cons, List.getLast?_cons, Option.some_or, Option.some_or]

theorem trim_text : Text.trim description.text.toList = description.line := by
  rw [text, String.toList_ofList]
  refine Text.trim_append (List.all_eq_true.mp description.before_blank)
    (List.all_eq_true.mp description.after_blank) (List.cons_ne_nil _ _) ?_ ?_
  · rintro c ⟨⟩
    decide
  · intro c hc
    rw [getLast?_line] at hc
    have hdigit := List.all_eq_true.mp description.hash_digits c (List.mem_of_getLast? hc)
    exact isBlank_of_mem_hashDigits (List.contains_iff_mem.mp hdigit)

theorem splitOn_trim_text :
    (Text.trim description.text.toList).splitOn '\n' = [description.line] := by
  rw [trim_text, List.splitOn_eq_splitOnP]
  apply List.splitOnP_eq_singleton
  intro c hc
  rw [beq_eq_false_iff_ne]
  rintro rfl
  exact description.feed_notMem_line hc

/-! ## The version that is found -/

theorem hyphen_notMem_hash : '-' ∉ 'g' :: description.hash := by
  simp [description.notMem_hash (c := '-') (by decide)]

theorem isCount_count : IsCount ('-' :: description.count) :=
  ⟨description.count, rfl, description.count_ne_nil, List.all_eq_true.mp description.count_digits⟩

theorem append_ending (tail : List Char) :
    tail ++ description.ending =
      tail ++ '-' :: description.count ++ '-' :: 'g' :: description.hash := by
  rw [ending, List.append_assoc]

theorem isLongest_append_ending {tail : List Char} (hne : tail ≠ []) :
    IsLongest (tail ++ '-' :: description.count) (tail ++ description.ending) := by
  rw [append_ending]
  refine ⟨⟨⟨tail, _, rfl, hne, description.isCount_count⟩, 'g' :: description.hash, ?_⟩, ?_⟩
  · rw [List.append_assoc, List.singleton_append]
  · intro other hother
    exact length_le_of_hyphen_notMem description.hyphen_notMem_hash hother.2

/-- No version starts after the tag: its count would need one more hyphen before the hash. -/
theorem not_starts_ending (version : List Char) : ¬ Starts version description.ending := by
  rintro ⟨⟨front, count, rfl, hfront, hcount⟩, hprefix⟩
  obtain ⟨c, front, rfl⟩ := List.exists_cons_of_ne_nil hfront
  have hrest : front ++ count ++ ['-'] <+: description.count ++ '-' :: 'g' :: description.hash :=
    (List.cons_prefix_cons.mp hprefix).2
  have hlength := length_le_of_hyphen_notMem description.hyphen_notMem_hash hrest
  have hinside : front ++ count <+: description.count :=
    List.prefix_of_prefix_length_le ((List.prefix_append _ _).trans hrest)
      (List.prefix_append _ _) hlength
  obtain ⟨digits, rfl, _⟩ := hcount
  have hhyphen : '-' ∈ description.count := hinside.subset (by simp)
  exact description.notMem_count (by decide) hhyphen

theorem not_namesVersion_append_ending {tail : List Char} (hlast : 'v' ∉ tail.dropLast) :
    ¬ NamesVersion (tail ++ description.ending) := by
  rintro ⟨before, after, version, heq, hstarts⟩
  have hending : 'v' ∉ description.ending := by
    simp [ending, description.notMem_count (c := 'v') (by decide),
      description.notMem_hash (c := 'v') (by decide)]
  rw [List.append_eq_append_iff] at heq
  rcases heq with ⟨gap, rfl, hgap⟩ | ⟨gap, rfl, hgap⟩
  · exact hending (hgap ▸ by simp)
  · cases gap with
    | nil =>
      have hmem : 'v' ∈ [] ++ description.ending := hgap ▸ List.mem_cons_self
      exact hending hmem
    | cons c gap =>
      obtain ⟨rfl, rfl⟩ := List.cons.inj hgap
      -- Only a last character of the tag can be such a `v`.
      cases gap with
      | nil => exact description.not_starts_ending version hstarts
      | cons d gap =>
        rw [List.dropLast_append_of_ne_nil (List.cons_ne_nil _ _)] at hlast
        exact hlast (by simp)

theorem describedVersion?_text_of_last {front tail : List Char}
    (hversion : 'v' :: description.version = front ++ 'v' :: tail) (hne : tail ≠ [])
    (hlast : 'v' ∉ tail.dropLast) :
    describedVersion? description.text =
      some (String.ofList (tail ++ '-' :: description.count)) := by
  rw [describedVersion?_eq_some_iff]
  refine ⟨[], description.line, [], description.splitOn_trim_text, nofun, front,
    tail ++ description.ending, ?_, ?_, description.not_namesVersion_append_ending hlast⟩
  · rw [line, hversion, List.append_assoc, List.cons_append]
  · rw [String.toList_ofList]
    exact description.isLongest_append_ending hne

/-- The version starts after the last `v` of the tag that is not its last character. It is the tag's
own version with the count exactly if that `v` is the one in front of the tag's version. -/
theorem describedVersion?_text :
    (∃ front tail, 'v' :: description.version = front ++ 'v' :: tail ∧ tail ≠ [] ∧
        'v' ∉ tail.dropLast ∧
        describedVersion? description.text =
          some (String.ofList (tail ++ '-' :: description.count))) ∧
      (describedVersion? description.text =
          some (String.ofList (description.version ++ '-' :: description.count)) ↔
        'v' ∉ description.version.dropLast) := by
  have hfront : 'v' ∈ ('v' :: description.version).dropLast := by
    rw [List.dropLast_cons_of_ne_nil description.version_ne_nil]
    exact List.mem_cons_self
  obtain ⟨front, tail, hversion, hne, hlast⟩ := exists_last hfront
  have hfound := description.describedVersion?_text_of_last hversion hne hlast
  refine ⟨⟨front, tail, hversion, hne, hlast, hfound⟩, ?_, ?_⟩
  · intro hown
    have hsame := String.ofList_injective (Option.some.inj (hfound.symm.trans hown))
    rwa [← List.append_cancel_right hsame]
  · intro hnone
    have hwhole : 'v' :: description.version = [] ++ 'v' :: description.version := rfl
    exact description.describedVersion?_text_of_last hwhole description.version_ne_nil hnone

/-- The tag `v1.0-dev1`, three commits ago. -/
def developmentTag : Description where
  version := "1.0-dev1".toList
  count := ['3']
  hash := "deadbee".toList
  before := []
  after := []
  starts_with_digit := by decide
  version_not_blank := by decide
  count_ne_nil := by decide
  count_digits := by decide
  hash_ne_nil := by decide
  hash_digits := by decide
  before_blank := by decide
  after_blank := by decide

/-- The front of this version is lost. -/
theorem describedVersion?_developmentTag :
    ¬ ∀ description : Description, describedVersion? description.text =
      some (String.ofList (description.version ++ '-' :: description.count)) := by
  intro h
  have hfound : describedVersion? developmentTag.text = some "1-3" := by decide +kernel
  rw [h developmentTag] at hfound
  revert hfound
  decide +kernel

end Description

end ExportTable.Version
