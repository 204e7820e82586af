import ExportTable.Proofs.CSource.Lines
import ExportTable.Proofs.CSource.Parts

/-!
# The words of a text

The words of a text are its tokens without their places. Which words a text has in the middle of
another one depends on the text before it only by whether a line begins there.
-/

namespace ExportTable.CSource

/-- The words of a text that the state stands before, unless it cannot be read. -/
def wordsFrom (s : LexState) (cs : List Char) : Option (List Word) :=
  (tokenizeFrom s cs).toOption.map (List.map Token.word)

def words? (source : String) : Option (List Word) := wordsFrom .initial source.toList

variable {s t last : LexState} {cs rest : List Char} {tokens : List Token}

@[simp]
theorem wordsFrom_nil (s : LexState) : wordsFrom s [] = some [] := by
  rw [wordsFrom, tokenizeFrom]
  rfl

theorem wordsFrom_of_reads (h : Reads s cs tokens last rest) :
    wordsFrom s cs = (wordsFrom last rest).map (tokens.map Token.word ++ ·) := by
  rw [wordsFrom, tokenizeFrom_of_reads h, toOption_map, wordsFrom, Option.map_map, Option.map_map]
  congr 1
  funext later
  exact List.map_append

theorem wordsFrom_of_gap (h : Reads s cs [] last rest) : wordsFrom s cs = wordsFrom last rest := by
  rw [wordsFrom_of_reads h]
  exact Option.map_id'

theorem wordsFrom_eq_none_of_fault {fault : LexFault} (h : Reads s cs tokens last rest)
    (hfault : fault.Begins rest) : wordsFrom s cs = none := by
  have herror : tokenizeFrom s cs = .error ⟨last.line, fault⟩ := tokenizeFrom_of_fault h rfl hfault
  rw [wordsFrom, herror]
  rfl

theorem words?_of_tokenize {source : String} (h : tokenize source = .ok tokens) :
    words? source = some (tokens.map Token.word) := by
  rw [tokenize] at h
  rw [words?, wordsFrom, h]
  rfl

theorem wordsFrom_congr (hline : s.lineStart = t.lineStart) (cs : List Char) :
    wordsFrom s cs = wordsFrom t cs := by
  cases h : tokenizeFrom s cs with
  | error e =>
    obtain ⟨tokens, last, rest, hreads, _, hfault⟩ := exists_reads_of_error h
    obtain ⟨others, final, hothers, _, _⟩ := hreads.restate hline.symm
    rw [wordsFrom_eq_none_of_fault hreads hfault, wordsFrom_eq_none_of_fault hothers hfault]
  | ok tokens =>
    obtain ⟨last, hreads⟩ := reads_of_tokenizeFrom h
    obtain ⟨others, final, hothers, hwords, hfinal⟩ := hreads.restate hline.symm
    rw [wordsFrom_of_reads hreads, wordsFrom_of_reads hothers, hwords, wordsFrom_nil, wordsFrom_nil]

/-- A text that begins with a line feed is read like the text after it. -/
theorem wordsFrom_feed (rest : List Char) :
    wordsFrom .initial ('\n' :: rest) = wordsFrom .initial rest := by
  rw [wordsFrom_of_gap (reads_space (by decide))]
  apply wordsFrom_congr
  simp [LexState.after, LexState.initial]

theorem wordsFrom_numberSign (s : LexState) :
    wordsFrom s ['#'] = some (if s.lineStart then [] else [(.punctuation, "#")]) := by
  cases hline : s.lineStart with
  | false =>
    have hpiece : pieceAt s.lineStart '#' [] = .ok ⟨some .punctuation, 0⟩ := by rw [hline]; rfl
    rw [wordsFrom_of_reads (.token hpiece .nil), List.drop_nil, wordsFrom_nil]
    rfl
  | true =>
    have hpiece : pieceAt s.lineStart '#' [] = .ok ⟨none, 0⟩ := by rw [hline]; rfl
    rw [wordsFrom_of_gap (.gap hpiece .nil), List.drop_nil, wordsFrom_nil]
    rfl

/-- A number sign tells whether a line begins. -/
theorem wordsFrom_eq_iff :
    (∀ cs, wordsFrom s cs = wordsFrom t cs) ↔ s.lineStart = t.lineStart := by
  refine ⟨fun h ↦ ?_, wordsFrom_congr⟩
  have hsharp := h ['#']
  rw [wordsFrom_numberSign, wordsFrom_numberSign, Option.some.injEq] at hsharp
  cases hs : s.lineStart <;> cases ht : t.lineStart <;> simp [hs, ht] at hsharp ⊢

theorem exists_lineStart_iff (p : Prop) : ∃ s : LexState, s.lineStart = true ↔ p := by
  classical
  exact ⟨⟨1, decide p, true⟩, decide_eq_true_iff⟩

/-! ## Lines that end a comment -/

/-- A text whose last line ends like a comment is either unreadable, whatever follows, or is read
before whatever follows, and after it a line begins. -/
theorem wordsFrom_commentEnd (front : List Char) :
    (∀ rest, wordsFrom .initial (front ++ ' ' :: '*' :: '/' :: '\n' :: rest) = none) ∨
      ∃ words, ∀ rest, wordsFrom .initial (front ++ ' ' :: '*' :: '/' :: '\n' :: rest) =
        (wordsFrom .initial rest).map (words ++ ·) := by
  have hlonger (rest : List Char) : front ++ ' ' :: '*' :: '/' :: '\n' :: rest =
      front ++ [' ', '*', '/'] ++ '\n' :: rest := by
    simp
  cases h : tokenizeFrom .initial (front ++ [' ', '*', '/']) with
  | error e =>
    obtain ⟨tokens, last, after, hreads, _, hfault⟩ := exists_reads_of_error h
    obtain ⟨parts, htext, _, hfit, _⟩ := exists_fit_of_reads hreads follows_initial
    refine .inl fun rest ↦ ?_
    obtain ⟨c, body, rfl⟩ := hfault.exists_cons
    have hsame : (c :: body).head? = (c :: body ++ '\n' :: rest).head? := rfl
    obtain ⟨final, hlater, _⟩ := exists_reads_of_fit (hfit.congr hsame) follows_initial
    rw [hlonger, ← htext, List.append_assoc]
    exact wordsFrom_eq_none_of_fault hlater (hfault.append_line htext rest)
  | ok tokens =>
    obtain ⟨last, hreads⟩ := reads_of_tokenizeFrom h
    refine .inr ⟨tokens.map Token.word, fun rest ↦ ?_⟩
    have hend : ¬ EndsInBackslash (front ++ [' ', '*', '/']) := by
      rw [endsInBackslash_append_cons (by decide) (by decide)]
      decide
    obtain ⟨middle, between, hlines, hmiddle⟩ := hreads.append_line rest
    obtain ⟨hstart, rfl⟩ := hmiddle (.inl hend)
    rw [hlonger, wordsFrom_of_reads hlines, wordsFrom_congr (t := .initial) hstart]

end ExportTable.CSource
