import ExportTable.Proofs.CSource.Faults

/-!
# Texts that fill lines

`ReadsAs` gives the words that a text is read as where a line begins, whatever stands before it and
after it. Texts of this kind can be put together, and their words are then one after the other.
-/

namespace ExportTable.CSource

/-- A token without its place. -/
abbrev Word := TokenKind × String

def Token.word (t : Token) : Word := (t.kind, t.text)

/-- Where a line begins, the text is read as the words, and after it a line begins. -/
def ReadsAs (text : String) (words : List Word) : Prop :=
  ∀ s rest, s.lineStart = true → ∃ tokens last, Reads s (text.toList ++ rest) tokens last rest ∧
    tokens.map Token.word = words ∧ last.lineStart = true

theorem tokenize_of_readsAs {text : String} {words : List Word} (h : ReadsAs text words) :
    ∃ tokens, tokenize text = .ok tokens ∧ tokens.map Token.word = words := by
  obtain ⟨tokens, last, hreads, hwords, _⟩ := h .initial [] rfl
  refine ⟨tokens, ?_, hwords⟩
  rw [List.append_nil] at hreads
  rw [tokenize, tokenizeFrom_of_reads hreads, tokenizeFrom, ok_map, List.append_nil]

/-! ## Texts put together -/

theorem readsAs_empty : ReadsAs "" [] := fun s _ hline ↦ ⟨[], s, .nil, rfl, hline⟩

theorem ReadsAs.append {front back : String} {words others : List Word}
    (hfront : ReadsAs front words) (hback : ReadsAs back others) :
    ReadsAs (front ++ back) (words ++ others) := by
  intro s rest hline
  obtain ⟨tokens, middle, hreads, hwords, hmiddle⟩ := hfront s (back.toList ++ rest) hline
  obtain ⟨later, last, hlater, hothers, hlast⟩ := hback middle rest hmiddle
  refine ⟨tokens ++ later, last, ?_, ?_, hlast⟩
  · rw [String.toList_append, List.append_assoc]
    exact hreads.trans hlater
  · rw [List.map_append, hwords, hothers]

theorem ReadsAs.append_gap {front back : String} {words : List Word}
    (hfront : ReadsAs front words) (hback : ReadsAs back []) : ReadsAs (front ++ back) words := by
  have h := hfront.append hback
  rwa [List.append_nil] at h

theorem readsAs_join {α : Type} {text : α → String} {words : α → List Word} {items : List α}
    (h : ∀ item ∈ items, ReadsAs (text item) (words item)) :
    ReadsAs (String.join (items.map text)) (items.flatMap words) := by
  induction items with
  | nil => exact readsAs_empty
  | cons item items ih =>
    obtain ⟨hitem, hitems⟩ := List.forall_mem_cons.mp h
    rw [List.map_cons, String.join_cons, List.flatMap_cons]
    exact hitem.append (ih hitems)

/-! ## Gaps -/

theorem exists_reads_blanks {gap : List Char} (hgap : gap.all isSpace) (s : LexState)
    (rest : List Char) :
    ∃ last : LexState, Reads s (gap ++ rest) [] last rest ∧
      (s.lineStart = true → last.lineStart = true) := by
  induction gap generalizing s with
  | nil => exact ⟨s, .nil, id⟩
  | cons c cs ih =>
    rw [List.all_cons, Bool.and_eq_true] at hgap
    obtain ⟨last, hreads, hlast⟩ := ih hgap.2 (s.after none [c])
    refine ⟨last, (reads_space hgap.1).trans hreads, fun hline ↦ hlast ?_⟩
    simp [LexState.after, hline]

theorem readsAs_blanks {gap : String} (hgap : gap.toList.all isSpace) : ReadsAs gap [] := by
  intro s rest hline
  obtain ⟨last, hreads, hlast⟩ := exists_reads_blanks hgap s rest
  exact ⟨[], last, hreads, rfl, hlast hline⟩

/-- A gap that a line feed ends and does not belong to. -/
theorem readsAs_gap {text : String} {c : Char} {cs : List Char} (htext : text.toList = c :: cs)
    (hpiece : ∀ rest, pieceAt true c (cs ++ '\n' :: rest) = .ok ⟨none, cs.length⟩) :
    ReadsAs (text ++ "\n") [] := by
  intro s rest hline
  have hgap : pieceAt s.lineStart c (cs ++ '\n' :: rest) = .ok ⟨none, cs.length⟩ := by
    rw [hline, hpiece]
  have hlonger : (text ++ "\n").toList ++ rest = c :: (cs ++ '\n' :: rest) := by
    simp [htext]
  refine ⟨[], (s.after none (c :: cs)).after none ['\n'], ?_, rfl, by simp [LexState.after]⟩
  rw [hlonger]
  exact (reads_gap hgap).trans (reads_space (by decide))

theorem readsAs_directive {text : String} (h : IsDirective text.toList) :
    ReadsAs (text ++ "\n") [] := by
  obtain ⟨body, hbody⟩ := List.head?_eq_some_iff.mp h.mark
  rw [hbody] at h
  apply readsAs_gap hbody
  intro rest
  rw [pieceAt_directive, h.directiveLength_eq]

theorem readsAs_directives {text : String} {lines : List (List Char)}
    (htext : text.toList = lines.flatMap (· ++ ['\n'])) (h : ∀ line ∈ lines, IsDirective line) :
    ReadsAs text [] := by
  have hjoin : text = String.join (lines.map fun line ↦ String.ofList line ++ "\n") := by
    rw [← String.toList_inj, htext]
    simp [String.toList_join, List.flatMap_map]
  have hlines : ∀ line ∈ lines, ReadsAs (String.ofList line ++ "\n") [] := by
    intro line hline
    apply readsAs_directive
    rw [String.toList_ofList]
    exact h line hline
  have hreads := readsAs_join hlines
  rwa [← hjoin, List.flatMap_eq_nil_iff.mpr fun _ _ ↦ rfl] at hreads

theorem readsAs_comment {body : String} (h : '/' ∉ body.toList) :
    ReadsAs ("/*" ++ body ++ "*/\n") [] := by
  have htext : ("/*" ++ body ++ "*/").toList = '/' :: '*' :: (body.toList ++ ['*', '/']) := by
    simp
  have hend : "/*" ++ body ++ "*/\n" = "/*" ++ body ++ "*/" ++ "\n" := by
    rw [show "*/\n" = "*/" ++ "\n" from rfl, ← String.append_assoc]
  rw [hend]
  apply readsAs_gap htext
  intro rest
  have hbody : ¬ ClosesComment body.toList := fun hcloses ↦ h (hcloses.subset (by decide))
  have hlength := commentLength_append_mark hbody ('\n' :: rest)
  simp [pieceAt, isSpace, hlength]

/-! ## Texts that are read on their own -/

/-- What is read depends on the state only by whether a line begins. -/
theorem Reads.restate {s t last : LexState} {cs rest : List Char} {tokens : List Token}
    (h : Reads s cs tokens last rest) (hline : t.lineStart = s.lineStart) :
    ∃ others final, Reads t cs others final rest ∧
      others.map Token.word = tokens.map Token.word ∧ final.lineStart = last.lineStart := by
  induction h generalizing t with
  | nil => exact ⟨[], t, .nil, rfl, hline⟩
  | @gap s last c cs rest n tokens hpiece _ ih =>
    obtain ⟨others, final, hreads, hwords, hfinal⟩ :=
      ih (t := t.after none (c :: cs.take n)) (by simp only [LexState.after, hline])
    rw [← hline] at hpiece
    exact ⟨others, final, .gap hpiece hreads, hwords, hfinal⟩
  | @token s last c cs rest kind n tokens hpiece _ ih =>
    obtain ⟨others, final, hreads, hwords, hfinal⟩ :=
      ih (t := t.after (some kind) (c :: cs.take n)) (by simp only [LexState.after, hline])
    rw [← hline] at hpiece
    refine ⟨_, final, .token hpiece hreads, ?_, hfinal⟩
    rw [List.map_cons, List.map_cons, hwords]
    rfl

/-- A text that is read on its own is read in the same way on lines of its own. -/
theorem exists_reads_line {text : String} {tokens : List Token} (h : tokenize text = .ok tokens)
    {rest : List Char} (hend : ¬ EndsInBackslash text.toList ∨ rest.head? = some '\n')
    {s : LexState} (hline : s.lineStart = true) :
    ∃ others last, Reads s (text.toList ++ '\n' :: rest) others last rest ∧
      others.map Token.word = tokens.map Token.word ∧ last.lineStart = true := by
  obtain ⟨last, hreads⟩ := reads_of_tokenize h
  obtain ⟨middle, _, hlines, hmiddle⟩ := hreads.append_line rest
  obtain ⟨hstart, rfl⟩ := hmiddle hend
  obtain ⟨others, final, hothers, hwords, hfinal⟩ := hlines.restate (t := s) hline
  exact ⟨others, final, hothers, hwords, hfinal.trans hstart⟩

theorem readsAs_of_tokenize {text : String} {tokens : List Token}
    (h : tokenize text = .ok tokens) (hend : ¬ EndsInBackslash text.toList) :
    ReadsAs (text ++ "\n") (tokens.map Token.word) := by
  intro s rest hline
  obtain ⟨others, last, hreads, hwords, hlast⟩ := exists_reads_line h (.inl hend) hline
  exact ⟨others, last, by simpa using hreads, hwords, hlast⟩

/-- A text whose words can be computed. -/
theorem readsAs_fixed (text : String) {words : List Word}
    (h : (tokenize text).map (List.map Token.word) = .ok words)
    (hend : ¬ EndsInBackslash text.toList) : ReadsAs (text ++ "\n") words := by
  obtain ⟨tokens, htokens, hwords⟩ := map_eq_ok_iff.mp h
  rw [← hwords]
  exact readsAs_of_tokenize htokens hend

/-- A blank line ends every directive. -/
theorem readsAs_of_tokenize_blank {text : String} {tokens : List Token}
    (h : tokenize text = .ok tokens) : ReadsAs (text ++ "\n\n") (tokens.map Token.word) := by
  intro s rest hline
  have hfeed : ('\n' :: rest).head? = some '\n' := rfl
  obtain ⟨others, last, hreads, hwords, _⟩ := exists_reads_line h (.inr hfeed) hline
  refine ⟨others, last.after none ['\n'], ?_, hwords, by simp [LexState.after]⟩
  simpa using hreads.trans (reads_space (by decide))

end ExportTable.CSource
