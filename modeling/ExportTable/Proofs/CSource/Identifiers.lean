import ExportTable.Proofs.CSource.Pieces

/-!
# Identifiers as texts

An identifier is a text that is one lexeme of its kind. It stays one when identifier characters are
added at its end, and it holds no other characters.
-/

namespace ExportTable.CSource

theorem continuesIdentifier_of_startsIdentifier {c : Char} (h : startsIdentifier c) :
    continuesIdentifier c := by
  rw [startsIdentifier, Bool.or_eq_true] at h
  rw [continuesIdentifier, Char.isAlphanum, Bool.or_eq_true, Bool.or_eq_true]
  exact h.imp_left Or.inl

theorem isIdentifier_iff {s : String} :
    isIdentifier s ↔
      ∃ c cs, s.toList = c :: cs ∧ startsIdentifier c ∧ cs.all continuesIdentifier := by
  rw [isIdentifier]
  cases s.toList with
  | nil => simp
  | cons c cs =>
    rw [Bool.and_eq_true]
    constructor
    · exact fun h ↦ ⟨c, cs, rfl, h⟩
    · rintro ⟨_, _, heq, h⟩
      cases heq
      exact h

theorem isLexeme_identifier_iff {s : String} :
    IsLexeme .identifier s.toList ↔ isIdentifier s := by
  rw [isIdentifier_iff]
  constructor
  · intro h
    generalize hs : s.toList = lexeme at h
    cases h with
    | identifier hfirst hrest => exact ⟨_, _, rfl, hfirst, hrest⟩
  · rintro ⟨c, cs, hs, hfirst, hrest⟩
    rw [hs]
    exact .identifier hfirst hrest

theorem all_continuesIdentifier {s : String} (h : isIdentifier s) :
    s.toList.all continuesIdentifier := by
  obtain ⟨c, cs, hs, hfirst, hrest⟩ := isIdentifier_iff.mp h
  rw [hs, List.all_cons, Bool.and_eq_true]
  exact ⟨continuesIdentifier_of_startsIdentifier hfirst, hrest⟩

theorem isIdentifier_append {s t : String} (hs : isIdentifier s)
    (ht : t.toList.all continuesIdentifier) : isIdentifier (s ++ t) := by
  obtain ⟨c, cs, hcs, hfirst, hrest⟩ := isIdentifier_iff.mp hs
  refine isIdentifier_iff.mpr ⟨c, cs ++ t.toList, ?_, hfirst, ?_⟩
  · rw [String.toList_append, hcs, List.cons_append]
  · rw [List.all_append, hrest, ht]
    rfl

theorem not_mem_of_isIdentifier {s : String} (h : isIdentifier s) {c : Char}
    (hc : continuesIdentifier c = false) : c ∉ s.toList := by
  intro hmem
  have hcontinues := List.all_eq_true.mp (all_continuesIdentifier h) c hmem
  rw [hc] at hcontinues
  cases hcontinues

/-- An identifier neither ends a directive nor lets it go on. -/
theorem not_mem_feed_of_isIdentifier {s : String} (h : isIdentifier s) :
    '\n' ∉ s.toList ∧ '\\' ∉ s.toList :=
  ⟨not_mem_of_isIdentifier h (by decide), not_mem_of_isIdentifier h (by decide)⟩

end ExportTable.CSource
