import ExportTable.Proofs.CSource.Reading
import Mathlib.Data.List.Chain

/-!
# Rendered tokens, read again

Rendering keeps every separation between two tokens, as one space. Two tokens without a separation
were told apart by their characters alone, and so they are again. Rendered tokens are therefore read
back as they were, but for their lines and for what stood before the first one.
-/

namespace ExportTable.CSource

/-- A text that goes on with these characters adds nothing to the token. -/
def Token.EndsBefore (t : Token) (cs : List Char) : Prop :=
  ∀ c ∈ cs.head?, joins t.kind t.text.toList c = false

/-- Tokens that can be told apart where nothing separates them. -/
structure Legible (tokens : List Token) : Prop where
  lexemes : ∀ t ∈ tokens, IsLexeme t.kind t.text.toList
  separate : tokens.IsChain fun t u ↦ u.spaced = false → t.EndsBefore u.text.toList

namespace Legible

variable {t : Token} {ts tokens : List Token}

theorem nil : Legible [] := ⟨by simp, .nil⟩

theorem cons_iff : Legible (t :: ts) ↔ IsLexeme t.kind t.text.toList ∧
    (∀ u ∈ ts.head?, u.spaced = false → t.EndsBefore u.text.toList) ∧ Legible ts := by
  constructor
  · intro h
    obtain ⟨hlexeme, hlexemes⟩ := List.forall_mem_cons.mp h.lexemes
    obtain ⟨hhead, hchain⟩ := List.isChain_cons.mp h.separate
    exact ⟨hlexeme, hhead, hlexemes, hchain⟩
  · intro h
    obtain ⟨hlexeme, hhead, hlexemes, hchain⟩ := h
    exact ⟨List.forall_mem_cons.mpr ⟨hlexeme, hlexemes⟩, List.isChain_cons.mpr ⟨hhead, hchain⟩⟩

theorem part (h : Legible tokens) (hpart : ts <:+: tokens) : Legible ts where
  lexemes u hu := h.lexemes u (hpart.subset hu)
  separate := h.separate.infix hpart

end Legible

/-- The tokens of a text can be told apart; the first one, if nothing separates it from what was
read before, begins the text. -/
theorem legible_of_reads {s last : LexState} {cs rest : List Char} {tokens : List Token}
    (h : Reads s cs tokens last rest) : Legible tokens ∧
      ∀ t ∈ tokens.head?, t.spaced = false → s.spaced = false ∧ t.text.toList.head? = cs.head? := by
  induction h with
  | nil => exact ⟨.nil, by simp⟩
  | gap hpiece _ ih =>
    refine ⟨ih.1, ?_⟩
    intro t ht hspaced
    have hstate := (ih.2 t ht hspaced).1
    cases hstate
  | @token s last c cs rest kind n tokens hpiece _ ih =>
    obtain ⟨hlegible, hfirst⟩ := ih
    obtain ⟨front, back, rfl, rfl, hlexeme, hnext, _⟩ := isLexeme_of_pieceAt hpiece
    rw [List.drop_left] at hfirst
    rw [List.take_left]
    refine ⟨Legible.cons_iff.mpr ⟨?_, ?_, hlegible⟩, ?_⟩
    · simpa using hlexeme
    · intro u hu hspaced next hhead
      rw [(hfirst u hu hspaced).2] at hhead
      simpa using hnext next hhead
    · intro t ht hspaced
      cases ht
      exact ⟨hspaced, by simp⟩

theorem legible_of_tokenize {source : String} {tokens : List Token}
    (h : tokenize source = .ok tokens) : Legible tokens := by
  obtain ⟨last, hreads⟩ := reads_of_tokenize h
  exact (legible_of_reads hreads).1

/-- After a blank on a line that has tokens, a number sign still begins no directive. -/
theorem exists_reads_blank {s : LexState} (hline : s.lineStart = false) :
    ∃ middle : LexState, middle.lineStart = false ∧ middle.spaced = true ∧
      ∀ rest, Reads s (' ' :: rest) [] middle rest := by
  refine ⟨s.after none [' '], ?_, rfl, fun rest ↦ reads_space (by decide)⟩
  simp [LexState.after, hline]

theorem Token.endsBefore_nil (t : Token) : t.EndsBefore [] := by
  intro next hnext
  cases hnext

theorem Token.endsBefore_space (t : Token) {c : Char} (hc : isSpace c) (rest : List Char) :
    t.EndsBefore (c :: rest) := by
  intro next hnext
  cases hnext
  exact joins_of_isSpace hc

/-- A token with its text, wherever it stands. -/
theorem reads_token {t : Token} {s : LexState} {rest : List Char}
    (h : IsLexeme t.kind t.text.toList) (hrest : t.EndsBefore rest)
    (hmark : t.text.toList.head? = some '#' → s.lineStart = false) :
    Reads s (t.text.toList ++ rest) [{ t with line := s.line, spaced := s.spaced }]
      (s.after (some t.kind) t.text.toList) rest := by
  have hreads := reads_lexeme h hrest hmark
  rwa [String.ofList_toList] at hreads

/-! ## Rendering -/

/-- The token without its line. -/
def Token.unlined (t : Token) : Token := { t with line := 0 }

/-- The token without what its place decides. -/
def Token.bare (t : Token) : Token := { t with line := 0, spaced := false }

@[simp]
theorem Token.isPunctuation_bare (t : Token) (c : Char) :
    t.bare.isPunctuation c = t.isPunctuation c := rfl

theorem map_bare_of_unlined {tokens others : List Token}
    (h : others.map Token.unlined = tokens.map Token.unlined) :
    others.map Token.bare = tokens.map Token.bare := by
  have hbare := congrArg (List.map Token.bare) h
  rwa [List.map_map, List.map_map] at hbare

theorem map_continuation_of_unlined {tokens others : List Token}
    (h : others.map Token.unlined = tokens.map Token.unlined) :
    others.map Token.continuation = tokens.map Token.continuation := by
  have hcontinuation := congrArg (List.map Token.continuation) h
  rwa [List.map_map, List.map_map] at hcontinuation

/-- The same tokens in other places, with the same separations. -/
structure Respells (tokens others : List Token) : Prop where
  spelling : others.map Token.bare = tokens.map Token.bare
  rendering : render others = render tokens

/-- The text of tokens that continue others. -/
def continuations (ts : List Token) : List Char := (String.join (ts.map Token.continuation)).toList

theorem continuations_cons (t : Token) (ts : List Token) :
    continuations (t :: ts) = t.continuation.toList ++ continuations ts := by
  simp [continuations, String.join_cons]

theorem toList_render_cons (t : Token) (ts : List Token) :
    (render (t :: ts)).toList = t.text.toList ++ continuations ts := by
  simp [render, continuations]

theorem Token.endsBefore_continuations {t : Token} {ts : List Token} (h : Legible (t :: ts))
    {rest : List Char} (hrest : ∀ u ∈ (t :: ts).getLast?, u.EndsBefore rest) :
    t.EndsBefore (continuations ts ++ rest) := by
  cases ts with
  | nil => exact hrest t rfl
  | cons u us =>
    obtain ⟨_, hhead, hlegible⟩ := Legible.cons_iff.mp h
    rw [continuations_cons, List.append_assoc, Token.continuation]
    cases hspaced : u.spaced with
    | true =>
      simp only [if_true, String.toList_append]
      exact t.endsBefore_space (by decide) _
    | false =>
      have hends := hhead u rfl hspaced
      obtain ⟨c, cs, hlexeme⟩ := (Legible.cons_iff.mp hlegible).1.exists_cons
      simp only [Bool.false_eq_true, if_false]
      rw [hlexeme] at hends ⊢
      exact hends

/-- What separates the token from the one before it is read back. -/
theorem reads_separation (t : Token) {s : LexState} (hline : s.lineStart = false)
    (hspaced : s.spaced = false) (rest : List Char) :
    ∃ middle, Reads s (t.continuation.toList ++ rest) [] middle (t.text.toList ++ rest) ∧
      middle.lineStart = false ∧ middle.spaced = t.spaced := by
  rw [Token.continuation]
  cases t.spaced with
  | true =>
    obtain ⟨middle, hmiddle, hflag, hgap⟩ := exists_reads_blank hline
    exact ⟨middle, by simpa using hgap (t.text.toList ++ rest), hmiddle, hflag⟩
  | false => exact ⟨s, .nil, hline, hspaced⟩

/-- Tokens that continue others are read back, but for their lines. -/
theorem reads_continuations {ts : List Token} (h : Legible ts) {s : LexState} {rest : List Char}
    (hline : s.lineStart = false) (hspaced : s.spaced = false)
    (hrest : ∀ u ∈ ts.getLast?, u.EndsBefore rest) :
    ∃ others last, Reads s (continuations ts ++ rest) others last rest ∧ last.lineStart = false ∧
      others.map Token.unlined = ts.map Token.unlined := by
  induction ts generalizing s with
  | nil => exact ⟨[], s, .nil, hline, rfl⟩
  | cons t ts ih =>
    obtain ⟨hlexeme, _, hlegible⟩ := Legible.cons_iff.mp h
    have hends := Token.endsBefore_continuations h hrest
    have hrest' : ∀ u ∈ ts.getLast?, u.EndsBefore rest := by
      intro u hu
      exact hrest u (List.mem_getLast?_cons hu)
    obtain ⟨middle, hgap, hmiddle, hflag⟩ :=
      reads_separation t hline hspaced (continuations ts ++ rest)
    have htoken := reads_token hlexeme hends fun _ ↦ hmiddle
    obtain ⟨others, last, hothers, hlast, hsame⟩ :=
      ih hlegible (s := middle.after (some t.kind) t.text.toList) rfl rfl hrest'
    refine ⟨{ t with line := middle.line, spaced := middle.spaced } :: others, last, ?_, hlast, ?_⟩
    · rw [continuations_cons, List.append_assoc]
      exact hgap.trans (htoken.trans hothers)
    · simp [hsame, Token.unlined, hflag]

/-- Rendered tokens are read back, but for their lines and what stood before the first one. The first
one must not begin a directive. -/
theorem reads_render_cons {t : Token} {ts : List Token} (h : Legible (t :: ts)) {s : LexState}
    {rest : List Char} (hline : t.text.toList.head? = some '#' → s.lineStart = false)
    (hrest : ∀ u ∈ (t :: ts).getLast?, u.EndsBefore rest) :
    ∃ others last, Reads s ((render (t :: ts)).toList ++ rest)
        ({ t with line := s.line, spaced := s.spaced } :: others) last rest ∧
      last.lineStart = false ∧ others.map Token.unlined = ts.map Token.unlined := by
  obtain ⟨hlexeme, _, hlegible⟩ := Legible.cons_iff.mp h
  have hrest' : ∀ u ∈ ts.getLast?, u.EndsBefore rest := by
    intro u hu
    exact hrest u (List.mem_getLast?_cons hu)
  have htoken := reads_token hlexeme (Token.endsBefore_continuations h hrest) hline
  obtain ⟨others, last, hothers, hlast, hsame⟩ :=
    reads_continuations hlegible (s := s.after (some t.kind) t.text.toList) rfl rfl hrest'
  refine ⟨others, last, ?_, hlast, hsame⟩
  rw [toList_render_cons, List.append_assoc]
  exact htoken.trans hothers

/-- Rendered tokens are read back with their spelling and their separations. -/
theorem reads_render {tokens : List Token} (h : Legible tokens) {s : LexState} {rest : List Char}
    (hline : s.lineStart = false) (hrest : ∀ u ∈ tokens.getLast?, u.EndsBefore rest) :
    ∃ others last, Reads s ((render tokens).toList ++ rest) others last rest ∧
      last.lineStart = false ∧ Respells tokens others := by
  cases tokens with
  | nil => exact ⟨[], s, .nil, hline, rfl, rfl⟩
  | cons t ts =>
    obtain ⟨others, last, hreads, hlast, hsame⟩ := reads_render_cons h (fun _ ↦ hline) hrest
    refine ⟨_, last, hreads, hlast, ?_, ?_⟩
    · simp [map_bare_of_unlined hsame, Token.bare]
    · simp [render, map_continuation_of_unlined hsame]

/-- A number sign that is the first token of its line would begin a directive. -/
theorem head?_ne_numberSign {s last : LexState} {cs rest : List Char} {tokens : List Token}
    (h : Reads s cs tokens last rest) (hline : s.lineStart = true) :
    ∀ t ∈ tokens.head?, t.text.toList.head? ≠ some '#' := by
  induction h with
  | nil => simp
  | gap _ _ ih => exact ih (by simp [LexState.after, hline])
  | token hpiece =>
    obtain ⟨_, _, _, _, _, _, hmark⟩ := isLexeme_of_pieceAt hpiece
    rintro t ⟨⟩ hhead
    have hc := hmark (by simpa using hhead)
    rw [hline] at hc
    cases hc

end ExportTable.CSource
