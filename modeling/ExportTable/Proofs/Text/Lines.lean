import ExportTable.Text.Blank
import Mathlib.Data.List.Infix
import Mathlib.Data.List.TakeWhile

/-!
# Lines and trimming

Pieces between separators are parts of a text and hold no separator, and lines are such pieces.
Trimming takes the blanks at both ends of a text and nothing else, and so the first line of a
trimmed text is the first line of the text that is not blank, up to the blanks around it.
-/

namespace ExportTable.Text

/-! ## Pieces -/

theorem infix_intercalate (separator : List Char) {piece : List Char} {pieces : List (List Char)}
    (h : piece ∈ pieces) : piece <:+: separator.intercalate pieces := by
  induction pieces with
  | nil => cases h
  | cons first rest ih =>
    cases rest with
    | nil =>
      obtain rfl := List.mem_singleton.mp h
      rw [List.intercalate_singleton]
    | cons second rest =>
      rw [List.intercalate_cons_cons]
      rcases List.mem_cons.mp h with rfl | hrest
      · exact ((List.prefix_append _ _).trans (List.prefix_append _ _)).isInfix
      · exact (ih hrest).trans (List.suffix_append _ _).isInfix

theorem infix_of_mem_splitOn {separator : Char} {cs piece : List Char}
    (h : piece ∈ cs.splitOn separator) : piece <:+: cs := by
  have hinfix := infix_intercalate [separator] h
  rwa [List.intercalate_splitOn] at hinfix

theorem separator_notMem_of_mem_splitOn {separator : Char} {cs piece : List Char}
    (h : piece ∈ cs.splitOn separator) : separator ∉ piece := by
  induction cs generalizing piece with
  | nil =>
    rw [List.splitOn_nil] at h
    obtain rfl := List.mem_singleton.mp h
    exact List.not_mem_nil
  | cons c cs ih =>
    rw [List.splitOn_cons_eq_if_modifyHead] at h
    split at h
    · rcases List.mem_cons.mp h with rfl | h
      · exact List.not_mem_nil
      · exact ih h
    · next hc =>
      cases hsplit : cs.splitOn separator with
      | nil => exact absurd hsplit (List.splitOn_ne_nil _ _)
      | cons first rest =>
        rw [hsplit] at h ih
        rcases List.mem_cons.mp h with rfl | h
        · exact fun hmem ↦ (List.mem_cons.mp hmem).elim (fun heq ↦ hc (by simp [← heq]))
            (ih List.mem_cons_self)
        · exact ih (List.mem_cons_of_mem first h)

/-- The first piece goes up to the first separator. -/
theorem exists_splitOn_eq (separator : Char) (cs : List Char) :
    ∃ later, cs.splitOn separator = cs.takeWhile (· ≠ separator) :: later := by
  induction cs with
  | nil => exact ⟨[], rfl⟩
  | cons c cs ih =>
    obtain ⟨later, hlater⟩ := ih
    rw [List.splitOn_cons_eq_if_modifyHead]
    by_cases hc : c = separator
    · exact ⟨cs.splitOn separator, by simp [hc]⟩
    · exact ⟨later, by simp [hc, hlater]⟩

/-! ## Blanks -/

theorem dropWhile_isBlank {before text : List Char} (hbefore : ∀ c ∈ before, isBlank c)
    (htext : ∀ c ∈ text.head?, isBlank c = false) :
    (before ++ text).dropWhile isBlank = text := by
  rw [List.dropWhile_append_of_pos hbefore]
  cases text with
  | nil => rfl
  | cons c cs => rw [List.dropWhile_cons_of_neg (by simp [htext c rfl])]

/-- Trimming removes the blanks around a text and stops at its first and last characters. -/
theorem trim_append {before text after : List Char} (hbefore : ∀ c ∈ before, isBlank c)
    (hafter : ∀ c ∈ after, isBlank c) (hne : text ≠ [])
    (hfirst : ∀ c ∈ text.head?, isBlank c = false)
    (hlast : ∀ c ∈ text.getLast?, isBlank c = false) :
    trim (before ++ (text ++ after)) = text := by
  have hhead : ∀ c ∈ (text ++ after).head?, isBlank c = false := by
    rwa [List.head?_append_of_ne_nil _ hne]
  have hreverse : ∀ c ∈ text.reverse.head?, isBlank c = false := by
    rwa [List.head?_reverse]
  have hblank : ∀ c ∈ after.reverse, isBlank c := fun c hc ↦ hafter c (List.mem_reverse.mp hc)
  rw [trim, dropWhile_isBlank hbefore hhead, trimEnd, List.reverse_append,
    dropWhile_isBlank hblank hreverse, List.reverse_reverse]

theorem exists_trimEnd_append (cs : List Char) :
    ∃ after, cs = trimEnd cs ++ after ∧ ∀ c ∈ after, isBlank c := by
  refine ⟨(cs.reverse.takeWhile isBlank).reverse, ?_, fun c hc ↦ ?_⟩
  · rw [trimEnd, ← List.reverse_append, List.takeWhile_append_dropWhile, List.reverse_reverse]
  · exact List.mem_takeWhile_imp (List.mem_reverse.mp hc)

/-- A text is what trimming leaves of it, with blanks before and after. -/
theorem exists_trim_append (cs : List Char) :
    ∃ before after, cs = before ++ (trim cs ++ after) ∧ (∀ c ∈ before, isBlank c) ∧
      ∀ c ∈ after, isBlank c := by
  obtain ⟨after, hafter, hblank⟩ := exists_trimEnd_append (cs.dropWhile isBlank)
  refine ⟨cs.takeWhile isBlank, after, ?_, fun _ ↦ List.mem_takeWhile_imp, hblank⟩
  rw [trim, ← hafter, List.takeWhile_append_dropWhile]

theorem infix_dropReturn (line : List Char) : dropReturn line <:+: line := by
  rw [dropReturn]
  split
  · exact line.dropLast_prefix.isInfix
  · exact List.infix_rfl

/-- All pieces but the last are lines without their carriage returns; the last one is a line as it
stands, if there is anything in it. -/
theorem exists_lines_eq (cs : List Char) :
    ∃ front last, cs.splitOn '\n' = front ++ [last] ∧
      lines cs = front.map dropReturn ++ if last = [] then [] else [last] := by
  have hne := List.splitOn_ne_nil '\n' cs
  refine ⟨_, _, (List.dropLast_concat_getLast hne).symm, ?_⟩
  unfold lines
  dsimp only
  rw [List.getLast?_eq_some_getLast hne]
  cases (cs.splitOn '\n').getLast hne with
  | nil => exact (List.append_nil _).symm
  | cons c rest => rfl

theorem exists_piece_of_mem_lines {cs line : List Char} (h : line ∈ lines cs) :
    ∃ piece ∈ cs.splitOn '\n', line <:+: piece := by
  obtain ⟨front, last, hpieces, hlines⟩ := exists_lines_eq cs
  rw [hlines] at h
  rw [hpieces]
  rcases List.mem_append.mp h with h | h
  · obtain ⟨piece, hmem, rfl⟩ := List.mem_map.mp h
    exact ⟨piece, List.mem_append_left _ hmem, infix_dropReturn piece⟩
  · split at h
    · cases h
    · exact ⟨line, List.mem_append_right _ h, List.infix_rfl⟩

/-- A line is a part of the text. -/
theorem infix_of_mem_lines {cs line : List Char} (h : line ∈ lines cs) : line <:+: cs := by
  obtain ⟨piece, hpiece, hline⟩ := exists_piece_of_mem_lines h
  exact hline.trans (infix_of_mem_splitOn hpiece)

section

variable {c : Char} {cs : List Char}

end

end ExportTable.Text
