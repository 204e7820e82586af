import ExportTable.Proofs.CSource.Identifiers
import ExportTable.Proofs.CSource.Lines
import Mathlib.Data.List.Zip

/-!
# Words with white space between them

A text is laid out word by word, with white space before each word. Some words need none: a name or a
number goes on up to the next punctuation, and most punctuation is one character, whatever follows.
Such a text is read as its words.
-/

namespace ExportTable.CSource

/-! ## Words -/

namespace Word

def name (text : String) : Word := (.identifier, text)

def numeral (text : String) : Word := (.number, text)

def quoted (text : String) : Word := (.literal, "\"" ++ text ++ "\"")

def mark (c : Char) : Word := (.punctuation, String.singleton c)

end Word

/-- The word is a lexeme, and it begins no directive. -/
structure IsWord (word : Word) : Prop where
  isLexeme : IsLexeme word.1 word.2.toList
  no_directive : word.2.toList.head? ≠ some '#'

theorem isWord_name {text : String} : IsWord (Word.name text) ↔ isIdentifier text := by
  constructor
  · intro h
    exact isLexeme_identifier_iff.mp h.isLexeme
  · intro h
    refine ⟨isLexeme_identifier_iff.mpr h, ?_⟩
    obtain ⟨c, cs, htext, hfirst, _⟩ := isIdentifier_iff.mp h
    rw [Word.name, htext, List.head?_cons, ne_eq, Option.some.injEq]
    exact ne_of_apply hfirst (by decide)

theorem isWord_numeral {text : String} (hne : text ≠ "") (hdigits : text.toList.all Char.isDigit) :
    IsWord (Word.numeral text) := by
  obtain ⟨c, cs, htext⟩ := List.exists_cons_of_ne_nil (mt String.toList_eq_nil_iff.mp hne)
  rw [htext, List.all_cons, Bool.and_eq_true] at hdigits
  have hrest : cs.all continuesNumber := by
    rw [List.all_eq_true]
    intro d hd
    have hdigit := List.all_eq_true.mp hdigits.2 d hd
    simp [continuesNumber, Char.isAlphanum, hdigit]
  refine ⟨?_, ?_⟩
  · rw [Word.numeral, htext]
    exact .number hdigits.1 hrest
  · rw [Word.numeral, htext, List.head?_cons, ne_eq, Option.some.injEq]
    exact ne_of_apply hdigits.1 (by decide)

theorem literalLength_of_not_mem {quote : Char} {cs : List Char} (hquote : quote ∉ cs)
    (hback : '\\' ∉ cs) (hline : '\n' ∉ cs) (hne : quote ≠ '\\') :
    literalLength quote (cs ++ [quote]) = some (cs ++ [quote]).length := by
  induction cs with
  | nil =>
    rw [List.nil_append, literalLength.eq_2 _ _ _ (fun _ _ heq ↦ absurd heq hne), if_pos rfl]
    rfl
  | cons c cs ih =>
    rw [List.mem_cons, not_or] at hquote hback hline
    rw [List.cons_append, literalLength.eq_2 _ _ _ (fun _ _ heq ↦ absurd heq.symm hback.1),
      if_neg (Ne.symm hquote.1), if_neg (Ne.symm hline.1), ih hquote.2 hback.2 hline.2]
    rfl

theorem isWord_quoted {text : String} (hquote : '"' ∉ text.toList) (hback : '\\' ∉ text.toList)
    (hline : '\n' ∉ text.toList) : IsWord (Word.quoted text) := by
  have htext : (Word.quoted text).2.toList = '"' :: (text.toList ++ ['"']) := by
    simp [Word.quoted]
  refine ⟨?_, ?_⟩
  · rw [htext]
    exact .literal (.inl rfl) (literalLength_of_not_mem hquote hback hline (by decide))
  · rw [htext]
    simp

/-- The characters that are tokens on their own, but for the one that begins a directive. -/
def isMark (c : Char) : Bool :=
  !isSpace c && c != '"' && c != '\'' && c != '#' && !startsIdentifier c && !c.isDigit

theorem isWord_mark {c : Char} : IsWord (Word.mark c) ↔ isMark c := by
  have hlexeme : IsLexeme .punctuation [c] ↔ isSpace c = false ∧ ¬ (c = '"' ∨ c = '\'') ∧
      startsIdentifier c = false ∧ c.isDigit = false := by
    constructor
    · intro h
      cases h with
      | punctuation hspace hquote hidentifier hdigit =>
        exact ⟨hspace, hquote, hidentifier, hdigit⟩
    · rintro ⟨hspace, hquote, hidentifier, hdigit⟩
      exact .punctuation hspace hquote hidentifier hdigit
  have hword : IsWord (Word.mark c) ↔ IsLexeme .punctuation [c] ∧ c ≠ '#' := by
    constructor
    · intro h
      exact ⟨by simpa [Word.mark] using h.isLexeme, by simpa [Word.mark] using h.no_directive⟩
    · rintro ⟨h, hmark⟩
      exact ⟨by simpa [Word.mark] using h, by simpa [Word.mark] using hmark⟩
  rw [hword, hlexeme]
  simp only [isMark, Bool.and_eq_true, Bool.not_eq_true', bne_iff_ne]
  tauto

/-! ## Layout -/

/-- The words need no space between them. -/
def apart (first second : Word) : Bool :=
  match first.1 with
  | .literal => true
  | .punctuation => first.2 ≠ "/"
  | .identifier | .number => second.1 = .punctuation && second.2 ≠ "."

theorem joins_of_apart {first second : Word} (h : apart first second)
    (hsecond : IsLexeme second.1 second.2.toList) :
    ∀ c ∈ second.2.toList.head?, joins first.1 first.2.toList c = false := by
  obtain ⟨kind, text⟩ := first
  obtain ⟨nextKind, next⟩ := second
  dsimp only at hsecond ⊢
  -- After a name or a number there is a single character that continues neither.
  have hmark (hnext : nextKind = .punctuation && next ≠ ".") :
      ∀ c ∈ next.toList.head?, continuesIdentifier c = false ∧ continuesNumber c = false := by
    simp only [Bool.and_eq_true, decide_eq_true_eq] at hnext
    obtain ⟨rfl, hdot⟩ := hnext
    generalize hlexeme : next.toList = lexeme at hsecond
    cases hsecond with
    | @punctuation c _ _ hidentifier hdigit =>
      rintro _ ⟨⟩
      simp only [startsIdentifier, Bool.or_eq_false_iff] at hidentifier
      have hpoint : c ≠ '.' := by
        rintro rfl
        exact hdot (String.toList_inj.mp hlexeme)
      simp [continuesIdentifier, continuesNumber, Char.isAlphanum, hidentifier, hdigit, hpoint]
  intro c hc
  cases kind with
  | identifier => exact (hmark h c hc).1
  | number => exact (hmark h c hc).2
  | literal => rfl
  | punctuation =>
    have hslash : text ≠ "/" := by simpa [apart] using h
    have hlexeme : text.toList ≠ ['/'] := fun heq ↦ hslash (String.toList_inj.mp heq)
    simp [joins, hlexeme]

def layOut (pieces : List (String × Word)) : String :=
  String.join (pieces.map fun (gap, word) ↦ gap ++ word.2)

theorem toList_layOut_cons (gap : String) (word : Word) (pieces : List (String × Word)) :
    (layOut ((gap, word) :: pieces)).toList =
      gap.toList ++ (word.2.toList ++ (layOut pieces).toList) := by
  simp [layOut, String.join_cons]

/-- The word ends before what follows. -/
def endsBefore (word : Word) : List (String × Word) → Bool
  | [] => true
  | (gap, next) :: _ => gap ≠ "" || apart word next

/-- The gaps are white space, and no two words run into each other. -/
def wellSpaced : List (String × Word) → Bool
  | [] => true
  | (gap, word) :: pieces =>
    gap.toList.all isSpace && endsBefore word pieces && wellSpaced pieces

theorem joins_layOut {word : Word} {pieces : List (String × Word)}
    (hend : endsBefore word pieces) (hspaced : wellSpaced pieces)
    (hwords : ∀ piece ∈ pieces, IsWord piece.2) (rest : List Char) :
    ∀ c ∈ ((layOut pieces).toList ++ '\n' :: rest).head?,
      joins word.1 word.2.toList c = false := by
  intro c hc
  cases pieces with
  | nil =>
    cases hc
    exact joins_of_isSpace (by decide)
  | cons piece pieces =>
    obtain ⟨gap, next⟩ := piece
    rw [wellSpaced, Bool.and_eq_true, Bool.and_eq_true] at hspaced
    have hnext : IsLexeme next.1 next.2.toList := (hwords _ List.mem_cons_self).isLexeme
    rw [toList_layOut_cons] at hc
    cases hgap : gap.toList with
    | nil =>
      have hempty : gap = "" := String.toList_eq_nil_iff.mp hgap
      have hapart : apart word next := by simpa [endsBefore, hempty] using hend
      obtain ⟨d, ds, hlexeme⟩ := hnext.exists_cons
      apply joins_of_apart hapart hnext
      rw [hgap, hlexeme] at hc
      rw [hlexeme]
      exact hc
    | cons d ds =>
      rw [hgap] at hc
      cases hc
      apply joins_of_isSpace
      apply List.all_eq_true.mp hspaced.1.1
      rw [hgap]
      exact List.mem_cons_self

theorem exists_reads_layOut {pieces : List (String × Word)} (hspaced : wellSpaced pieces)
    (hwords : ∀ piece ∈ pieces, IsWord piece.2) (s : LexState) (rest : List Char) :
    ∃ tokens last, Reads s ((layOut pieces).toList ++ '\n' :: rest) tokens last ('\n' :: rest) ∧
      tokens.map Token.word = pieces.map Prod.snd := by
  induction pieces generalizing s with
  | nil => exact ⟨[], s, .nil, rfl⟩
  | cons piece pieces ih =>
    obtain ⟨gap, word⟩ := piece
    rw [wellSpaced, Bool.and_eq_true, Bool.and_eq_true] at hspaced
    obtain ⟨⟨hgap, hend⟩, hrest⟩ := hspaced
    obtain ⟨⟨hlexeme, hmark⟩, hlater⟩ := List.forall_mem_cons.mp hwords
    obtain ⟨middle, hblanks, _⟩ :=
      exists_reads_blanks hgap s (word.2.toList ++ ((layOut pieces).toList ++ '\n' :: rest))
    have hword := reads_lexeme (s := middle) hlexeme (joins_layOut hend hrest hlater rest)
      fun hhead ↦ absurd hhead hmark
    obtain ⟨tokens, last, hreads, htokens⟩ :=
      ih hrest hlater (middle.after (some word.1) word.2.toList)
    refine ⟨⟨word.1, word.2, middle.line, middle.spaced⟩ :: tokens, last, ?_, ?_⟩
    · rw [toList_layOut_cons, List.append_assoc, List.append_assoc]
      simpa using hblanks.trans (hword.trans hreads)
    · simp [htokens, Token.word]

/-- Words with the given gaps before them, on lines of their own. -/
theorem readsAs_layOut (gaps : List String) {words : List Word} {text : String}
    (htext : text.toList = (layOut (gaps.zip words)).toList ++ ['\n'])
    (hlength : words.length = gaps.length) (hspaced : wellSpaced (gaps.zip words))
    (hwords : ∀ word ∈ words, IsWord word) : ReadsAs text words := by
  intro s rest _
  have hpieces : ∀ piece ∈ gaps.zip words, IsWord piece.2 := by
    intro piece hpiece
    exact hwords piece.2 (List.of_mem_zip hpiece).2
  obtain ⟨tokens, last, hreads, htokens⟩ := exists_reads_layOut hspaced hpieces s rest
  rw [List.map_snd_zip hlength.le] at htokens
  refine ⟨tokens, last.after none ['\n'], ?_, htokens, by simp [LexState.after]⟩
  rw [htext, List.append_assoc]
  simpa using hreads.trans (reads_space (by decide))

end ExportTable.CSource
