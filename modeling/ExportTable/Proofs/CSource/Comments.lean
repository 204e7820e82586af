import ExportTable.Proofs.CSource.Words
import Mathlib.Data.List.DropRight

/-!
# What the text of a comment decides

In code, what is read after a block comment depends on the comment's text only by whether it holds a
line feed, and only if a token stands before it on the line. A directive knows no comments: a line feed
in a comment after it ends the directive, and the rest of the comment is read as code.
-/

namespace ExportTable.CSource

def comment (body : String) : String := "/*" ++ body ++ "*/"

/-- The text after the last line feed. -/
def lastLine (cs : List Char) : List Char := cs.rtakeWhile (· != '\n')

/-- The last part of the text is a directive. -/
def EndsInDirective (source : String) : Prop :=
  ∃ parts body, IsCut (parts ++ [.directive body]) source

/-- Some token of the text has no line feed after it. -/
def EndsOnTokenLine (source : String) : Prop := ∃ parts, IsCut parts source ∧ TokenOnLine parts

theorem toList_append_comment (source body rest : String) :
    (source ++ comment body ++ rest).toList =
      source.toList ++ ((Part.blockComment body.toList).text ++ rest.toList) := by
  simp [comment, Part.text]

theorem mem_lastLine {c : Char} (hc : c ≠ '\n') {front back : List Char} (hback : '\n' ∉ back) :
    c ∈ lastLine (front ++ c :: back) := by
  have hall : ∀ d ∈ (c :: back).reverse, (d != '\n') = true := by
    intro d hd
    rw [List.mem_reverse] at hd
    rcases List.mem_cons.mp hd with rfl | hd
    · simpa using hc
    · simpa using ne_of_mem_of_not_mem hd hback
  rw [lastLine, List.rtakeWhile, List.reverse_append, List.takeWhile_append_of_pos hall]
  simp

theorem IsCut.endsOnTokenLine_iff {source : String} {parts : List Part} (h : IsCut parts source) :
    EndsOnTokenLine source ↔ TokenOnLine parts := by
  refine ⟨?_, fun htoken ↦ ⟨parts, h, htoken⟩⟩
  rintro ⟨others, hothers, htoken⟩
  obtain ⟨last, hreads, hlast⟩ := h.exists_reads
  obtain ⟨final, hother, hfinal⟩ := hothers.exists_reads
  obtain rfl := hreads.last_unique hother
  by_contra hnone
  exact hfinal.lineStart_iff.mp (hlast.lineStart_iff.mpr hnone) htoken

/-! ## Comments in code -/

section Code

variable {parts : List Part}

/-- A slash leaves the parts before it as they are, unless it belongs to the last of them. -/
theorem Fit.slash (h : Fit [] parts []) (hslash : '/' ∉ lastLine (textOf parts))
    (hcode : ∀ before body, parts ≠ before ++ [.directive body]) (rest : List Char) :
    Fit [] parts ('/' :: rest) := by
  rcases List.eq_nil_or_concat' parts with rfl | ⟨before, part, rfl⟩
  · trivial
  have htext : textOf (before ++ [part]) = textOf before ++ part.text := by simp [textOf]
  rw [htext] at hslash
  obtain ⟨hbefore, hpart⟩ := fit_concat.mp h
  rw [List.append_nil] at hbefore
  obtain ⟨c, cs, hchars⟩ := hpart.exists_cons
  refine fit_concat.mpr ⟨hbefore.congr (by simp [hchars]), ?_⟩
  cases part with
  | blank c => exact hpart
  | blockComment body => exact hpart
  | directive body => exact absurd rfl (hcode before body)
  | lineComment body =>
    have hbody : '\n' ∉ '/' :: body := by simpa using hpart.1
    exact absurd (mem_lastLine (by decide) hbody) hslash
  | token t =>
    refine ⟨hpart.isLexeme, ?_, hpart.line_eq, hpart.spaced_iff, hpart.no_directive⟩
    rintro next ⟨⟩
    have hne : t.text.toList ≠ ['/'] := by
      intro heq
      rw [Part.text, heq] at hslash
      exact hslash (mem_lastLine (by decide) List.not_mem_nil)
    cases t.kind <;> simp [joins, hne] <;> decide

theorem wordsFrom_blockComment (h : Fit [] parts []) (hslash : '/' ∉ lastLine (textOf parts))
    (hcode : ∀ before body, parts ≠ before ++ [.directive body]) {body : List Char}
    (hbody : ¬ ClosesComment body) {s : LexState}
    (hs : s.lineStart = true ↔ (TokenOnLine parts → '\n' ∈ body)) (rest : List Char) :
    wordsFrom .initial (textOf parts ++ ((Part.blockComment body).text ++ rest)) =
      (wordsFrom s rest).map ((tokensOf parts).map Token.word ++ ·) := by
  have hfit : Fit [] (parts ++ [.blockComment body]) rest :=
    fit_concat.mpr ⟨h.slash hslash hcode _, hbody⟩
  obtain ⟨last, hreads, hlast⟩ := exists_reads_of_fit hfit follows_initial
  have htext : textOf (parts ++ [.blockComment body]) ++ rest =
      textOf parts ++ ((Part.blockComment body).text ++ rest) := by
    simp [textOf]
  have htokens : tokensOf (parts ++ [.blockComment body]) = tokensOf parts := by
    simp [tokensOf, Part.token?]
  have hstart : last.lineStart = s.lineStart := by
    rw [Bool.eq_iff_iff, hlast.lineStart_iff, hs, List.nil_append, tokenOnLine_concat_gap rfl]
    simp [Part.text]
  rw [htext, htokens] at hreads
  rw [wordsFrom_of_reads hreads, wordsFrom_congr hstart]

/-- Two comments are alike before every text, or a number sign tells them apart. -/
theorem words?_comment_eq_iff {a c d : String} (h : IsCut parts a)
    (hslash : '/' ∉ lastLine a.toList) (hcode : ∀ before body, parts ≠ before ++ [.directive body])
    (hc : ¬ ClosesComment c.toList) (hd : ¬ ClosesComment d.toList) :
    (∀ b, words? (a ++ comment c ++ b) = words? (a ++ comment d ++ b)) ↔
      (TokenOnLine parts → ('\n' ∈ c.toList ↔ '\n' ∈ d.toList)) := by
  rw [← h.text_eq] at hslash
  have hwords {body : String} (hbody : ¬ ClosesComment body.toList) {s : LexState}
      (hs : s.lineStart = true ↔ (TokenOnLine parts → '\n' ∈ body.toList)) (b : String) :
      words? (a ++ comment body ++ b) =
        (wordsFrom s b.toList).map ((tokensOf parts).map Token.word ++ ·) := by
    rw [words?, toList_append_comment, ← h.text_eq]
    exact wordsFrom_blockComment h.fit hslash hcode hbody hs b.toList
  obtain ⟨s, hs⟩ := exists_lineStart_iff (TokenOnLine parts → '\n' ∈ c.toList)
  obtain ⟨t, ht⟩ := exists_lineStart_iff (TokenOnLine parts → '\n' ∈ d.toList)
  have hinjective : Function.Injective ((tokensOf parts).map Token.word ++ ·) :=
    fun _ _ ↦ List.append_cancel_left
  calc (∀ b, words? (a ++ comment c ++ b) = words? (a ++ comment d ++ b))
      ↔ ∀ b : String, wordsFrom s b.toList = wordsFrom t b.toList := by
        simp only [hwords hc hs, hwords hd ht, (Option.map_injective hinjective).eq_iff]
    _ ↔ ∀ cs, wordsFrom s cs = wordsFrom t cs :=
        ⟨fun h cs ↦ by simpa using h (String.ofList cs), fun h b ↦ h b.toList⟩
    _ ↔ s.lineStart = t.lineStart := wordsFrom_eq_iff
    _ ↔ (TokenOnLine parts → ('\n' ∈ c.toList ↔ '\n' ∈ d.toList)) := by
        rw [Bool.eq_iff_iff, hs, ht]
        by_cases htoken : TokenOnLine parts <;> simp [htoken]

end Code

/-! ## Comments after directives -/

/-- A directive goes on into the text after it. -/
theorem wordsFrom_append_directive {parts : List Part} {body : List Char}
    (h : Fit [] (parts ++ [.directive body]) []) (rest : List Char) :
    wordsFrom .initial (textOf (parts ++ [.directive body]) ++ rest) =
      (wordsFrom .initial ((body ++ rest).drop (directiveLength (body ++ rest)))).map
        ((tokensOf (parts ++ [.directive body])).map Token.word ++ ·) := by
  obtain ⟨hparts, hline, -, -⟩ := fit_concat.mp h
  have hfit : Fit [] parts ('#' :: (body ++ rest)) := hparts.congr rfl
  obtain ⟨last, hreads, hlast⟩ := exists_reads_of_fit hfit follows_initial
  have hstart : last.lineStart = true := hlast.lineStart_iff.mpr hline
  have hpiece : pieceAt last.lineStart '#' (body ++ rest) =
      .ok ⟨none, directiveLength (body ++ rest)⟩ := by
    rw [hstart, pieceAt_directive]
  have htext : textOf (parts ++ [.directive body]) ++ rest =
      textOf parts ++ '#' :: (body ++ rest) := by
    simp [textOf, Part.text]
  have htokens : tokensOf (parts ++ [.directive body]) = tokensOf parts := by
    simp [tokensOf, Part.token?]
  rw [htext, htokens, wordsFrom_of_reads hreads, wordsFrom_of_gap (.gap hpiece .nil)]
  congr 1
  apply wordsFrom_congr
  simp [LexState.after, LexState.initial, hstart]

/-- The directive goes on over the comment as long as it goes on over the line feeds in it. -/
theorem wordsFrom_comment_of_continued {parts : List Part} {body : List Char}
    (h : Fit [] (parts ++ [.directive body]) []) {inner : List Char} (hinner : Continued inner)
    (rest : List Char) :
    wordsFrom .initial (textOf (parts ++ [.directive body]) ++
        ((Part.blockComment inner).text ++ rest)) =
      (wordsFrom .initial (rest.drop (directiveLength rest))).map
        ((tokensOf (parts ++ [.directive body])).map Token.word ++ ·) := by
  have hbody : Continued body := continued_iff.mpr (fit_concat.mp h).2.2.1
  have hmarks : Continued (body ++ '/' :: '*' :: (inner ++ ['*']) ++ ['/']) := by
    refine (hbody.append ?_).append (.of_not_mem (by decide))
    exact .cons (by decide) (.cons (by decide) (hinner.append (.of_not_mem (by decide))))
  have hdrop := hmarks.drop_directiveLength (by decide) (by decide) rest
  have htext : body ++ '/' :: '*' :: (inner ++ ['*']) ++ '/' :: rest =
      body ++ ((Part.blockComment inner).text ++ rest) := by
    simp [Part.text]
  rw [wordsFrom_append_directive h, ← htext, hdrop]

/-- The directive ends in the comment, and the rest of the comment is read as code. -/
theorem wordsFrom_comment_of_feed {parts : List Part} {body : List Char}
    (h : Fit [] (parts ++ [.directive body]) []) {front : List Char} (hfront : Continued front)
    (hend : ¬ EndsInBackslash front) (back rest : List Char) :
    wordsFrom .initial (textOf (parts ++ [.directive body]) ++
        ((Part.blockComment (front ++ '\n' :: back)).text ++ rest)) =
      (wordsFrom .initial (back ++ '*' :: '/' :: rest)).map
        ((tokensOf (parts ++ [.directive body])).map Token.word ++ ·) := by
  have hbody : Continued body := continued_iff.mpr (fit_concat.mp h).2.2.1
  have hopen : Continued (body ++ '/' :: '*' :: front) :=
    hbody.append (.cons (by decide) (.cons (by decide) hfront))
  have hstop : ¬ EndsInBackslash (body ++ '/' :: '*' :: front) := by
    rw [endsInBackslash_append_cons (by decide) (by decide), endsInBackslash_cons]
    simpa using hend
  have hlength := hopen.directiveLength_append_feed hstop (back ++ '*' :: '/' :: rest)
  have htext : body ++ ((Part.blockComment (front ++ '\n' :: back)).text ++ rest) =
      body ++ '/' :: '*' :: front ++ '\n' :: (back ++ '*' :: '/' :: rest) := by
    simp [Part.text]
  rw [wordsFrom_append_directive h, htext, hlength, List.drop_left, wordsFrom_feed]

/-! ## Comments after a text that is read on its own -/

/-- What the text of a comment does to a text that goes on after it, where the text before it is read on
its own and no slash on its last line belongs to the comment's first mark. -/
theorem words?_comment {a : String} {tokens : List Token} (h : tokenize a = .ok tokens)
    (hslash : '/' ∉ lastLine a.toList) :
    (¬ EndsInDirective a → ∀ c d : String, ¬ ClosesComment c.toList → ¬ ClosesComment d.toList →
      ((∀ b, words? (a ++ comment c ++ b) = words? (a ++ comment d ++ b)) ↔
        (EndsOnTokenLine a → ('\n' ∈ c.toList ↔ '\n' ∈ d.toList)))) ∧
    (EndsInDirective a →
      (∀ c d : String, Continued c.toList → Continued d.toList → ∀ b,
        words? (a ++ comment c ++ b) = words? (a ++ comment d ++ b)) ∧
      ∀ f g : String, Continued f.toList → ¬ EndsInBackslash f.toList → ∀ b,
        words? (a ++ comment (f ++ "\n" ++ g) ++ b) =
          (words? (g ++ "*/" ++ b)).map (tokens.map Token.word ++ ·)) := by
  constructor
  · intro hcode c d hc hd
    obtain ⟨parts, hcut, rfl⟩ := exists_isCut_of_tokenize h
    have hdirective : ∀ before body, parts ≠ before ++ [.directive body] := by
      rintro before body rfl
      exact hcode ⟨before, body, hcut⟩
    rw [hcut.endsOnTokenLine_iff]
    exact words?_comment_eq_iff hcut hslash hdirective hc hd
  · rintro ⟨parts, body, hcut⟩
    obtain rfl := Except.ok.inj (h.symm.trans hcut.tokenize_eq)
    constructor
    · intro c d hc hd b
      rw [words?, words?, toList_append_comment, toList_append_comment, ← hcut.text_eq,
        wordsFrom_comment_of_continued hcut.fit hc, wordsFrom_comment_of_continued hcut.fit hd]
    · intro f g hf hend b
      have hbody : (f ++ "\n" ++ g).toList = f.toList ++ '\n' :: g.toList := by simp
      have hrest : (g ++ "*/" ++ b).toList = g.toList ++ '*' :: '/' :: b.toList := by simp
      rw [words?, toList_append_comment, ← hcut.text_eq, hbody,
        wordsFrom_comment_of_feed hcut.fit hf hend, words?, hrest]

theorem endsInDirective_define : EndsInDirective "#define X " := by
  refine ⟨[], "define X ".toList, by decide, ⟨?_, continued_iff.mp ?_, nofun⟩, trivial⟩
  · simp [TokenOnLine]
  · exact .of_not_mem (by decide)

theorem words?_comment_define :
    tokenize "#define X " = .ok [] ∧ '/' ∉ lastLine "#define X ".toList ∧
      EndsInDirective "#define X " ∧
      ∀ f g : String, Continued f.toList → ¬ EndsInBackslash f.toList → ∀ b,
        words? ("#define X " ++ comment (f ++ "\n" ++ g) ++ b) =
          (words? (g ++ "*/" ++ b)).map ([] ++ ·) := by
  have htokens : tokenize "#define X " = .ok [] := by decide +kernel
  have hslash : '/' ∉ lastLine "#define X ".toList := by decide
  exact ⟨htokens, hslash, endsInDirective_define,
    ((words?_comment htokens hslash).2 endsInDirective_define).2⟩

/-- The end of the comment's first line ends the directive, and its second line is read as code. -/
theorem comment_matters_in_directive :
    ¬ ∀ a b c d : String, (∃ tokens, tokenize a = .ok tokens) → a.toList.getLast?.any isSpace →
      (lastLine a.toList).all (· ∉ ['/', '"', '\'', '\\']) →
      ¬ ClosesComment c.toList → ¬ ClosesComment d.toList →
        words? (a ++ comment c ++ b) = words? (a ++ comment d ++ b) := by
  intro h
  have hshort : words? ("#define X " ++ comment " " ++ " 3\nint y;") =
      some [(.identifier, "int"), (.identifier, "y"), (.punctuation, ";")] := by
    decide +kernel
  have hlong : words? ("#define X " ++ comment " one\n two " ++ " 3\nint y;") =
      some [(.identifier, "two"), (.punctuation, "*"), (.punctuation, "/"), (.number, "3"),
        (.identifier, "int"), (.identifier, "y"), (.punctuation, ";")] := by
    decide +kernel
  have hsame := h "#define X " " 3\nint y;" " one\n two " " " ⟨[], by decide +kernel⟩
    (by decide +kernel) (by decide +kernel) (by decide +kernel) (by decide +kernel)
  exact absurd (hlong.symm.trans (hsame.trans hshort)) (by decide)

end ExportTable.CSource
