import ExportTable.Path
import ExportTable.Proofs.Text.Lines

/-!
# Segments of paths

A path is its segments with slashes between them. The parent of a path is walked from the same place
through the first segments of the path, or it has idle segments only.
-/

namespace ExportTable.Path

variable {path parent : Path}

/-! ## Texts and segments -/

theorem segments_ne_nil (path : Path) : path.segments ≠ [] := List.splitOn_ne_nil '/' path.toList

theorem intercalate_segments (path : Path) : ['/'].intercalate path.segments = path.toList :=
  List.intercalate_splitOn '/'

theorem getLast?_intercalate {pieces : List (List Char)} (h : pieces.getLast? = some []) :
    ['/'].intercalate pieces = [] ∨ (['/'].intercalate pieces).getLast? = some '/' := by
  induction pieces with
  | nil => cases h
  | cons first rest ih =>
    cases rest with
    | nil =>
      obtain rfl : first = [] := by simpa using h
      exact .inl rfl
    | cons second rest =>
      right
      rw [List.getLast?_cons_cons] at h
      rw [List.intercalate_cons_cons]
      rcases ih h with hnil | hlast
      · simp [hnil]
      · rw [List.getLast?_append, hlast, Option.some_or]

/-- Only the empty path and a path that ends in a slash have an empty last segment. -/
theorem eq_of_getLast?_segments (h : path.segments.getLast? = some []) :
    path = "" ∨ path.toList.getLast? = some '/' := by
  rcases getLast?_intercalate h with hnil | hlast
  · rw [intercalate_segments] at hnil
    exact .inl (String.toList_eq_nil_iff.mp hnil)
  · rw [intercalate_segments] at hlast
    exact .inr hlast

/-- The first segment of an absolute path is the empty one before its slash. -/
theorem isAbsolute_iff {first : List Char} {rest : List (List Char)}
    (h : path.segments = first :: rest) : path.isAbsolute ↔ first = [] ∧ rest ≠ [] := by
  have hfirst : '/' ∉ first := Text.separator_notMem_of_mem_splitOn (h ▸ List.mem_cons_self)
  rw [isAbsolute, ← intercalate_segments, h, decide_eq_true_iff]
  cases rest with
  | nil =>
    rw [List.intercalate_singleton]
    constructor
    · exact fun hhead ↦ absurd (List.mem_of_head? hhead) hfirst
    · rintro ⟨-, hrest⟩
      exact absurd rfl hrest
  | cons second rest =>
    rw [List.intercalate_cons_cons]
    cases first with
    | nil => simp
    | cons c cs => simpa using fun hc ↦ hfirst (by simp [hc])

theorem segments_ofSegments {segments : List (List Char)} (hne : segments ≠ [])
    (hroot : segments ≠ [[]]) (h : ∀ segment ∈ segments, '/' ∉ segment) :
    (ofSegments segments).segments = segments := by
  rw [ofSegments, if_neg hroot, Path.segments, String.toList_ofList,
    List.splitOn_intercalate _ h hne]

/-! ## Parents -/

theorem prefix_dropIdleEnd (segments : List (List Char)) : dropIdleEnd segments <+: segments := by
  rw [dropIdleEnd, ← List.reverse_suffix, List.reverse_reverse]
  exact List.dropWhile_suffix isIdle

/-- A parent is the empty path, or it is made of first segments of the path, not of all. -/
theorem parent?_cases (h : path.parent? = some parent) :
    ∃ first rest, path.segments = first :: rest ∧
      (first ≠ [] ∧ parent = "" ∨
        ∃ kept, kept <+: rest ∧ kept.length < rest.length ∧
          parent = ofSegments (first :: kept)) := by
  unfold parent? at h
  split at h
  · cases h
  · next first rest hsegments =>
    refine ⟨first, rest, hsegments, ?_⟩
    split at h
    · split at h
      · cases h
      · next hfirst => exact .inl ⟨hfirst, (Option.some.inj h).symm⟩
    · next hidle =>
      have hrest := prefix_dropIdleEnd rest
      have hkept := prefix_dropIdleEnd (dropIdleEnd rest).dropLast
      refine .inr ⟨_, hkept.trans ((List.dropLast_prefix _).trans hrest), ?_,
        (Option.some.inj h).symm⟩
      have hpositive : 0 < (dropIdleEnd rest).length := List.length_pos_iff.mpr hidle
      have hle := hkept.length_le
      rw [List.length_dropLast] at hle
      have hle' := hrest.length_le
      omega

theorem segments_ofSegments_cons {first : List Char} {rest kept : List (List Char)}
    (h : path.segments = first :: rest) (hkept : kept <+: rest) (hroot : first :: kept ≠ [[]]) :
    (ofSegments (first :: kept)).segments = first :: kept := by
  apply segments_ofSegments (List.cons_ne_nil _ _) hroot
  intro segment hmem
  have hstart : first :: kept <+: path.segments := by
    rw [h]
    exact (List.prefix_cons_inj first).mpr hkept
  exact Text.separator_notMem_of_mem_splitOn (hstart.subset hmem)

theorem isAbsolute_parent (h : path.parent? = some parent) :
    parent.isAbsolute = path.isAbsolute := by
  obtain ⟨first, rest, hsegments, ⟨hfirst, rfl⟩ | ⟨kept, hkept, hlt, rfl⟩⟩ := parent?_cases h
  · rw [Bool.eq_iff_iff, isAbsolute_iff hsegments]
    simp [hfirst, isAbsolute]
  have hrest : rest ≠ [] := List.length_pos_iff.mp (Nat.zero_lt_of_lt hlt)
  by_cases hroot : first :: kept = [[]]
  · rw [Bool.eq_iff_iff, isAbsolute_iff hsegments]
    obtain ⟨rfl, rfl⟩ := List.cons_eq_cons.mp hroot
    simp [hrest, ofSegments, isAbsolute]
  · have hparent := segments_ofSegments_cons hsegments hkept hroot
    rw [Bool.eq_iff_iff, isAbsolute_iff hsegments, isAbsolute_iff hparent]
    simp_all

/-- The empty path and the root have empty segments only. -/
theorem segments_parent (h : path.parent? = some parent) :
    parent.segments <+: path.segments ∨ ∀ segment ∈ parent.segments, segment = [] := by
  obtain ⟨first, rest, hsegments, ⟨hfirst, rfl⟩ | ⟨kept, hkept, -, rfl⟩⟩ := parent?_cases h
  · exact .inr (by decide)
  by_cases hroot : first :: kept = [[]]
  · rw [hroot]
    exact .inr (by decide)
  · rw [segments_ofSegments_cons hsegments hkept hroot, hsegments]
    exact .inl ((List.prefix_cons_inj first).mpr hkept)

/-- Parents get shorter until there is nothing but a start. -/
theorem length_segments_parent (h : path.parent? = some parent) :
    parent = "" ∨ parent = "/" ∨ parent.segments.length < path.segments.length := by
  obtain ⟨first, rest, hsegments, ⟨-, rfl⟩ | ⟨kept, hkept, hlt, rfl⟩⟩ := parent?_cases h
  · exact .inl rfl
  by_cases hroot : first :: kept = [[]]
  · rw [hroot]
    exact .inr (.inl rfl)
  · rw [segments_ofSegments_cons hsegments hkept hroot, hsegments]
    exact .inr (.inr (Nat.succ_lt_succ hlt))

end ExportTable.Path
