import ExportTable.Proofs.CSource.Directives
import ExportTable.Proofs.Result

/-!
# Reading a text in parts

`Reads` relates a text to the tokens at its front and to what is left when they are read. Tokens that
are read stay what they are when a line feed and more text are appended: the line feed is no part of
any token, and a gap that swallows it was the last piece of the text.
-/

namespace ExportTable.CSource

section Pieces

variable {s : LexState} {c : Char} {cs : List Char} {n : Nat}

theorem tokenizeFrom_fault {fault : LexFault} (h : pieceAt s.lineStart c cs = .error fault) :
    tokenizeFrom s (c :: cs) = .error ⟨s.line, fault⟩ := by
  rw [tokenizeFrom, h]

theorem tokenizeFrom_gap (h : pieceAt s.lineStart c cs = .ok ⟨none, n⟩) :
    tokenizeFrom s (c :: cs) = tokenizeFrom (s.after none (c :: cs.take n)) (cs.drop n) := by
  rw [tokenizeFrom, h]

theorem tokenizeFrom_token {kind : TokenKind}
    (h : pieceAt s.lineStart c cs = .ok ⟨some kind, n⟩) :
    tokenizeFrom s (c :: cs) =
      (tokenizeFrom (s.after (some kind) (c :: cs.take n)) (cs.drop n)).map
        (⟨kind, String.ofList (c :: cs.take n), s.line, s.spaced⟩ :: ·) := by
  rw [tokenizeFrom, h]

end Pieces

/-- Reading the pieces at the front of a text: their tokens, the state after them, and the text that
is left. -/
inductive Reads : LexState → List Char → List Token → LexState → List Char → Prop
  | nil {s : LexState} {cs : List Char} : Reads s cs [] s cs
  | gap {s last : LexState} {c : Char} {cs rest : List Char} {n : Nat} {tokens : List Token}
      (hpiece : pieceAt s.lineStart c cs = .ok ⟨none, n⟩)
      (hrest : Reads (s.after none (c :: cs.take n)) (cs.drop n) tokens last rest) :
      Reads s (c :: cs) tokens last rest
  | token {s last : LexState} {c : Char} {cs rest : List Char} {kind : TokenKind} {n : Nat}
      {tokens : List Token} (hpiece : pieceAt s.lineStart c cs = .ok ⟨some kind, n⟩)
      (hrest : Reads (s.after (some kind) (c :: cs.take n)) (cs.drop n) tokens last rest) :
      Reads s (c :: cs) (⟨kind, String.ofList (c :: cs.take n), s.line, s.spaced⟩ :: tokens) last rest

variable {s middle last : LexState} {cs between rest : List Char} {tokens later : List Token}

theorem Reads.trans (hfront : Reads s cs tokens middle between)
    (hback : Reads middle between later last rest) : Reads s cs (tokens ++ later) last rest := by
  induction hfront with
  | nil => exact hback
  | gap hpiece _ ih => exact .gap hpiece (ih hback)
  | token hpiece _ ih => exact .token hpiece (ih hback)

theorem tokenizeFrom_of_reads (h : Reads s cs tokens last rest) :
    tokenizeFrom s cs = (tokenizeFrom last rest).map (tokens ++ ·) := by
  induction h with
  | nil => cases h : tokenizeFrom _ _ <;> rfl
  | gap hpiece _ ih => rw [tokenizeFrom_gap hpiece, ih]
  | @token s last c cs rest kind n tokens hpiece _ ih =>
    rw [tokenizeFrom_token hpiece, ih]
    cases tokenizeFrom last rest <;> rfl

theorem reads_of_tokenizeFrom (h : tokenizeFrom s cs = .ok tokens) :
    ∃ last, Reads s cs tokens last [] := by
  fun_induction tokenizeFrom s cs generalizing tokens with
  | case1 s =>
    cases h
    exact ⟨s, .nil⟩
  | case2 => cases h
  | case3 s c cs piece hpiece lexeme rest hkind =>
    rename_i ih
    obtain ⟨kind, n⟩ := piece
    cases hkind
    obtain ⟨last, hrest⟩ := ih h
    exact ⟨last, .gap hpiece hrest⟩
  | case4 s c cs piece hpiece lexeme rest kind hkind =>
    rename_i ih
    obtain ⟨_, n⟩ := piece
    cases hkind
    obtain ⟨later, hlater, rfl⟩ := map_eq_ok_iff.mp h
    obtain ⟨last, hrest⟩ := ih hlater
    exact ⟨last, .token hpiece hrest⟩

theorem reads_of_tokenize {source : String} (h : tokenize source = .ok tokens) :
    ∃ last, Reads .initial source.toList tokens last [] := reads_of_tokenizeFrom h

theorem eq_nil_of_reads_nil (h : Reads s [] tokens last rest) : tokens = [] := by
  cases h
  rfl

theorem Reads.last_unique {final : LexState} (h : Reads s cs tokens last [])
    (hother : Reads s cs later final []) : last = final := by
  generalize hend : ([] : List Char) = rest at h
  induction h generalizing later with
  | nil =>
    subst hend
    cases hother
    rfl
  | gap hpiece _ ih =>
    cases hother with
    | gap hother hrest =>
      cases hpiece.symm.trans hother
      exact ih hrest hend
    | token hother _ => cases hpiece.symm.trans hother
  | token hpiece _ ih =>
    cases hother with
    | gap hother _ => cases hpiece.symm.trans hother
    | token hother hrest =>
      cases hpiece.symm.trans hother
      exact ih hrest hend

/-- A text that begins with a lexeme and goes on with something else. -/
theorem reads_lexeme {kind : TokenKind} {lexeme : List Char} (h : IsLexeme kind lexeme)
    (hnext : ∀ next ∈ rest.head?, joins kind lexeme next = false)
    (hmark : lexeme.head? = some '#' → s.lineStart = false) :
    Reads s (lexeme ++ rest) [⟨kind, String.ofList lexeme, s.line, s.spaced⟩]
      (s.after (some kind) lexeme) rest := by
  cases lexeme with
  | nil => cases h
  | cons c cs =>
    have hpiece : pieceAt s.lineStart c (cs ++ rest) = .ok ⟨some kind, cs.length⟩ :=
      pieceAt_of_isLexeme h hnext fun hc ↦ hmark (by rw [hc, List.head?_cons])
    have hreads := Reads.token hpiece Reads.nil
    rwa [List.take_left, List.drop_left] at hreads

/-- A text that begins with a part of a gap. -/
theorem reads_gap {c : Char} {front : List Char}
    (h : pieceAt s.lineStart c (front ++ rest) = .ok ⟨none, front.length⟩) :
    Reads s (c :: (front ++ rest)) [] (s.after none (c :: front)) rest := by
  have hreads := Reads.gap h .nil
  rwa [List.drop_left, List.take_left] at hreads

theorem reads_space {c : Char} (hc : isSpace c) :
    Reads s (c :: rest) [] (s.after none [c]) rest := by
  have hpiece : pieceAt s.lineStart c rest = .ok ⟨none, 0⟩ := by
    rw [pieceAt, if_pos hc]
  exact .gap hpiece .nil

/-- A directive that goes on over the line feed after it. -/
theorem reads_openDirective (hline : s.lineStart = true) (hwhole : directiveLength cs = cs.length)
    (hback : EndsInBackslash cs) (text : List Char) :
    ∃ last rest, Reads s ('#' :: (cs ++ '\n' :: text)) [] last rest ∧
      (¬ EndsInBackslash ('#' :: cs) ∨ text.head? = some '\n' →
        last.lineStart = true ∧ rest = text) := by
  have hpiece : pieceAt s.lineStart '#' (cs ++ '\n' :: text) =
      .ok ⟨none, directiveLength (cs ++ '\n' :: text)⟩ := by
    rw [hline, pieceAt_directive]
  refine ⟨_, _, .gap hpiece .nil, fun hstops ↦ ⟨?_, ?_⟩⟩
  · simp [LexState.after, hline]
  · rcases hstops with hstop | hfeed
    · exact absurd (hback.of_suffix (List.suffix_cons _ _)) hstop
    · obtain ⟨tail, rfl⟩ := List.head?_eq_some_iff.mp hfeed
      rw [directiveLength_append_feeds hwhole hback]
      simp [List.drop_append]

/-- Tokens stay what they are when the text goes on after a line feed. The new text begins a line,
unless a backslash at the end lets a directive go on over the line feed and into a line that is not
empty. -/
theorem Reads.append_line (h : Reads s cs tokens last []) (text : List Char) :
    ∃ last rest, Reads s (cs ++ '\n' :: text) tokens last rest ∧
      (¬ EndsInBackslash cs ∨ text.head? = some '\n' → last.lineStart = true ∧ rest = text) := by
  generalize hend : ([] : List Char) = rest at h
  induction h with
  | nil =>
    subst hend
    refine ⟨_, text, reads_space (by decide), fun _ ↦ ⟨?_, rfl⟩⟩
    simp [LexState.after]
  | @gap s last c cs rest n tokens hpiece hrest ih =>
    obtain ⟨hbound, hsame | ⟨⟨rfl, hline⟩, hwhole, hback⟩⟩ := pieceAt_append_feed hpiece text
    · obtain ⟨last', rest', hreads, hlast⟩ := ih hend
      rw [← List.drop_append_of_le_length hbound, ← List.take_append_of_le_length hbound]
        at hreads
      refine ⟨last', rest', .gap hsame hreads, fun hstops ↦ hlast (hstops.imp_left fun hstop ↦ ?_)⟩
      exact mt (·.of_suffix ((List.drop_suffix n cs).trans (List.suffix_cons c cs))) hstop
    · -- The directive was the last piece, so no token is left.
      rw [hline, pieceAt_directive, Except.ok.injEq, Piece.mk.injEq] at hpiece
      rw [← hpiece.2, hwhole, List.drop_length] at hrest
      rw [eq_nil_of_reads_nil hrest]
      exact reads_openDirective hline hwhole hback text
  | @token s last c cs rest kind n tokens hpiece _ ih =>
    obtain ⟨front, back, rfl, rfl, hlexeme, hnext, hmark⟩ := isLexeme_of_pieceAt hpiece
    obtain ⟨last', rest', hreads, hlast⟩ := ih hend
    rw [List.drop_left, List.take_left] at hreads
    rw [List.drop_left] at hlast
    have hnext' : ∀ next ∈ (back ++ '\n' :: text).head?, joins kind (c :: front) next = false := by
      cases back with
      | nil =>
        rintro next ⟨⟩
        exact joins_of_isSpace (by decide)
      | cons d ds => exact hnext
    have hfirst : Reads s (c :: front ++ (back ++ '\n' :: text)) _ _ _ :=
      reads_lexeme hlexeme hnext' fun hhead ↦ hmark (Option.some.inj hhead)
    rw [List.take_left, List.cons_append, List.append_assoc]
    refine ⟨last', rest', hfirst.trans hreads, fun hstops ↦ hlast (hstops.imp_left fun hstop ↦ ?_)⟩
    exact mt (·.of_suffix (List.suffix_append (c :: front) back)) hstop

/-- The tokens of a text are the first ones of every text that goes on after a line feed. -/
theorem prefix_tokenize_append_line {front back : String} {first all : List Token}
    (hfirst : tokenize front = .ok first) (hall : tokenize (front ++ "\n" ++ back) = .ok all) :
    first <+: all := by
  obtain ⟨last, hreads⟩ := reads_of_tokenize hfirst
  obtain ⟨last', rest, hlonger, _⟩ := hreads.append_line back.toList
  have htext : (front ++ "\n" ++ back).toList = front.toList ++ '\n' :: back.toList := by simp
  rw [tokenize, htext, tokenizeFrom_of_reads hlonger] at hall
  obtain ⟨later, _, rfl⟩ := map_eq_ok_iff.mp hall
  exact List.prefix_append first later

end ExportTable.CSource
