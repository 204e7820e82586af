import ExportTable.CSource.Lexer
import Mathlib.Data.List.TakeWhile

/-!
# What starts at a character

A token is known by its lexeme and by the one character after it: a text that begins with the lexeme
and goes on with a character that does not join it begins with this token. A gap is closed by its own
characters, unless it reaches to the end of the text; there, more text may make it longer.
-/

namespace ExportTable.CSource

theorem takeWhile_append_eq {p : Char → Bool} {front rest : List Char}
    (hfront : front.all p) (hrest : ∀ c ∈ rest.head?, p c = false) :
    (front ++ rest).takeWhile p = front := by
  rw [List.takeWhile_append_of_pos (List.all_eq_true.mp hfront)]
  cases rest with
  | nil => simp
  | cons c cs => simp [hrest c rfl]

/-- The characters that a scan takes, and the one that stops it. -/
theorem exists_append_takeWhile (p : Char → Bool) (cs : List Char) :
    ∃ front rest, cs = front ++ rest ∧ front = cs.takeWhile p ∧ front.all p ∧
      ∀ c ∈ rest.head?, p c = false := by
  refine ⟨cs.takeWhile p, cs.dropWhile p, List.takeWhile_append_dropWhile.symm, rfl, ?_, ?_⟩
  · exact List.all_eq_true.mpr fun c hc ↦ List.mem_takeWhile_imp hc
  · intro c hc
    have hhead := List.head?_dropWhile_not p cs
    rw [Option.mem_def.mp hc] at hhead
    simpa using hhead

/-! ## Literals and comments -/

/-- A literal is closed by its own characters, whatever follows. -/
theorem exists_append_literalLength {quote : Char} (hquote : quote ≠ '\\') {cs : List Char}
    {n : Nat} (h : literalLength quote cs = some n) :
    ∃ front rest, cs = front ++ rest ∧ front.length = n ∧
      ∀ other, literalLength quote (front ++ other) = some n := by
  fun_induction literalLength quote cs generalizing n with
  | case1 c cs ih =>
    obtain ⟨m, hm, rfl⟩ := Option.map_eq_some_iff.mp h
    obtain ⟨front, rest, rfl, rfl, hother⟩ := ih hm
    refine ⟨'\\' :: c :: front, rest, rfl, rfl, fun other ↦ ?_⟩
    simp [literalLength, hother]
  | case2 cs =>
    cases h
    refine ⟨[quote], cs, rfl, rfl, fun other ↦ ?_⟩
    rw [List.singleton_append, literalLength.eq_2 _ _ _ (fun _ _ heq ↦ absurd heq hquote),
      if_pos rfl]
  | case3 => cases h
  | case4 c cs hescape hclose hline ih =>
    obtain ⟨m, hm, rfl⟩ := Option.map_eq_some_iff.mp h
    obtain ⟨front, rest, rfl, rfl, hother⟩ := ih hm
    have hne : c ≠ '\\' := by
      rintro rfl
      cases hcs : front ++ rest with
      | nil =>
        rw [hcs] at hm
        cases hm
      | cons d ds => exact hescape d ds rfl hcs
    refine ⟨c :: front, rest, rfl, rfl, fun other ↦ ?_⟩
    rw [List.cons_append, literalLength.eq_2 _ _ _ (fun _ _ heq ↦ absurd heq hne), if_neg hclose,
      if_neg hline, hother]
    rfl
  | case5 => cases h

theorem literalLength_append {quote : Char} (hquote : quote ≠ '\\') {cs : List Char}
    (h : literalLength quote cs = some cs.length) (rest : List Char) :
    literalLength quote (cs ++ rest) = some cs.length := by
  obtain ⟨front, back, hsplit, hlength, hother⟩ := exists_append_literalLength hquote h
  have hback : back = [] := by
    have htotal := congrArg List.length hsplit
    rw [List.length_append] at htotal
    rw [← List.length_eq_zero_iff]
    omega
  rw [hback, List.append_nil] at hsplit
  subst hsplit
  exact hother rest

/-- A comment is closed by its own characters, whatever follows. -/
theorem exists_append_commentLength {cs : List Char} {n : Nat} (h : commentLength cs = some n) :
    ∃ front rest, cs = front ++ rest ∧ front.length = n ∧
      ∀ other, commentLength (front ++ other) = some n := by
  fun_induction commentLength cs generalizing n with
  | case1 rest =>
    cases h
    exact ⟨['*', '/'], rest, rfl, rfl, fun _ ↦ rfl⟩
  | case2 c cs hclose ih =>
    obtain ⟨m, hm, rfl⟩ := Option.map_eq_some_iff.mp h
    obtain ⟨front, rest, rfl, rfl, hother⟩ := ih hm
    refine ⟨c :: front, rest, rfl, rfl, fun other ↦ ?_⟩
    have hopen : ∀ tail, c = '*' → front ++ other = '/' :: tail → False := by
      intro tail hc htail
      cases front with
      | nil => cases hother []
      | cons d ds =>
        cases htail
        exact hclose (ds ++ rest) hc rfl
    rw [List.cons_append, commentLength.eq_2 _ _ hopen, hother]
    rfl
  | case3 => cases h

theorem commentLength_append {cs : List Char} {n : Nat} (h : commentLength cs = some n)
    (rest : List Char) : n ≤ cs.length ∧ commentLength (cs ++ rest) = some n := by
  obtain ⟨front, back, rfl, rfl, hother⟩ := exists_append_commentLength h
  rw [List.append_assoc, List.length_append]
  exact ⟨Nat.le_add_right _ _, hother (back ++ rest)⟩

theorem lineLength_append_feed (cs rest : List Char) :
    lineLength (cs ++ '\n' :: rest) = lineLength cs := by
  rw [lineLength, lineLength, List.takeWhile_append]
  split
  next hwhole => simp [hwhole]
  next => rfl

theorem lineLength_le (cs : List Char) : lineLength cs ≤ cs.length :=
  (List.takeWhile_prefix _).length_le

/-! ## Directives -/

/-- A backslash at the end that makes a directive go on over a line feed after it; a carriage return
may stand between the two. -/
def EndsInBackslash (cs : List Char) : Prop := ['\\'] <:+ cs ∨ ['\\', '\r'] <:+ cs

instance (cs : List Char) : Decidable (EndsInBackslash cs) :=
  inferInstanceAs (Decidable (['\\'] <:+ cs ∨ ['\\', '\r'] <:+ cs))

theorem EndsInBackslash.of_suffix {back cs : List Char} (h : EndsInBackslash back)
    (hback : back <:+ cs) : EndsInBackslash cs :=
  h.imp (·.trans hback) (·.trans hback)

theorem endsInBackslash_cons {c : Char} {cs : List Char} :
    EndsInBackslash (c :: cs) ↔ (c = '\\' ∧ (cs = [] ∨ cs = ['\r'])) ∨ EndsInBackslash cs := by
  simp only [EndsInBackslash, List.suffix_cons_iff, List.cons.injEq]
  constructor
  · rintro ((⟨hc, hcs⟩ | hcs) | (⟨hc, hcs⟩ | hcs))
    · exact .inl ⟨hc.symm, .inl hcs.symm⟩
    · exact .inr (.inl hcs)
    · exact .inl ⟨hc.symm, .inr hcs.symm⟩
    · exact .inr (.inr hcs)
  · rintro (⟨hc, hcs | hcs⟩ | hcs | hcs)
    · exact .inl (.inl ⟨hc.symm, hcs.symm⟩)
    · exact .inr (.inl ⟨hc.symm, hcs.symm⟩)
    · exact .inl (.inr hcs)
    · exact .inr (.inr hcs)

/-- A directive is closed by its own characters, unless it reaches to the end of the text and a
backslash stands there. -/
theorem directiveLength_append_feed (cs rest : List Char) : directiveLength cs ≤ cs.length ∧
    (directiveLength (cs ++ '\n' :: rest) = directiveLength cs ∨
      directiveLength cs = cs.length ∧ EndsInBackslash cs) := by
  fun_induction directiveLength cs with
  | case1 cs ih =>
    obtain ⟨hbound, hsame | ⟨hwhole, hend⟩⟩ := ih
    · simp only [List.cons_append, directiveLength, List.length_cons]
      omega
    · simp [hwhole, hend.of_suffix ((List.suffix_cons _ _).trans (List.suffix_cons _ _))]
  | case2 cs ih =>
    obtain ⟨hbound, hsame | ⟨hwhole, hend⟩⟩ := ih
    · simp only [List.cons_append, directiveLength, List.length_cons]
      omega
    · have hsuffix : cs <:+ '\\' :: '\r' :: '\n' :: cs := ⟨['\\', '\r', '\n'], rfl⟩
      simp [hwhole, hend.of_suffix hsuffix]
  | case3 => simp [directiveLength]
  | case4 c cs hfeed hreturn hline ih =>
    rw [List.length_cons]
    by_cases hopen : c = '\\' ∧ (cs = [] ∨ cs = ['\r'])
    · have hlength : directiveLength cs = cs.length := by
        rcases hopen.2 with rfl | rfl <;> rfl
      exact ⟨by omega, .inr ⟨by rw [hlength], endsInBackslash_cons.mpr (.inl hopen)⟩⟩
    · -- No backslash at the end of the text waits for a line feed.
      have hfeed' : ∀ tail, c = '\\' → cs ++ '\n' :: rest = '\n' :: tail → False := by
        intro tail hc htail
        cases cs with
        | nil => exact hopen ⟨hc, .inl rfl⟩
        | cons d ds =>
          cases htail
          exact hfeed ds hc rfl
      have hreturn' : ∀ tail, c = '\\' → cs ++ '\n' :: rest = '\r' :: '\n' :: tail → False := by
        intro tail hc htail
        rcases cs with _ | ⟨d, _ | ⟨e, es⟩⟩
        · cases htail
        · cases htail
          exact hopen ⟨hc, .inr rfl⟩
        · cases htail
          exact hreturn es hc rfl
      rw [List.cons_append, directiveLength.eq_4 _ _ hfeed' hreturn' hline]
      obtain ⟨hbound, hsame | ⟨hwhole, hend⟩⟩ := ih
      · exact ⟨by omega, .inl (by rw [hsame])⟩
      · exact ⟨by omega, .inr ⟨by rw [hwhole], hend.of_suffix (List.suffix_cons _ _)⟩⟩
  | case5 => simp [directiveLength]

/-- What a token of a kind looks like. -/
inductive IsLexeme : TokenKind → List Char → Prop
  | identifier {c : Char} {cs : List Char} (hfirst : startsIdentifier c)
      (hrest : cs.all continuesIdentifier) : IsLexeme .identifier (c :: cs)
  | number {c : Char} {cs : List Char} (hfirst : c.isDigit) (hrest : cs.all continuesNumber) :
      IsLexeme .number (c :: cs)
  | literal {c : Char} {cs : List Char} (hquote : c = '"' ∨ c = '\'')
      (hclosed : literalLength c cs = some cs.length) : IsLexeme .literal (c :: cs)
  | punctuation {c : Char} (hspace : isSpace c = false) (hquote : ¬ (c = '"' ∨ c = '\''))
      (hidentifier : startsIdentifier c = false) (hdigit : c.isDigit = false) :
      IsLexeme .punctuation [c]

theorem IsLexeme.exists_cons {kind : TokenKind} {lexeme : List Char} (h : IsLexeme kind lexeme) :
    ∃ c cs, lexeme = c :: cs := by
  cases h <;> exact ⟨_, _, rfl⟩

/-- A number sign is a token on its own. -/
theorem IsLexeme.eq_numberSign {kind : TokenKind} {cs : List Char} (h : IsLexeme kind ('#' :: cs)) :
    cs = [] := by
  cases h with
  | identifier hfirst => exact absurd hfirst (by decide)
  | number hfirst => exact absurd hfirst (by decide)
  | literal hquote => exact absurd hquote (by decide)
  | punctuation => rfl

/-- Right after the token, the character would become part of it or begin a comment with it. -/
def joins (kind : TokenKind) (lexeme : List Char) (next : Char) : Bool :=
  match kind with
  | .identifier => continuesIdentifier next
  | .number => continuesNumber next
  | .literal => false
  | .punctuation => lexeme = ['/'] && (next = '/' || next = '*')

/-! ## Tokens -/

theorem ne_of_apply {p : Char → Bool} {c d : Char} (hc : p c) (hd : p d = false) : c ≠ d := by
  rintro rfl
  simp [hc] at hd

theorem isSpace_eq_false {p : Char → Bool} {c : Char} (hc : p c)
    (h : [' ', '\t', '\r', '\n', '\x0b', '\x0c'].all (!p ·)) : isSpace c = false := by
  simp only [List.all_cons, List.all_nil, Bool.and_true, Bool.and_eq_true, Bool.not_eq_true'] at h
  obtain ⟨h0, h1, h2, h3, h4, h5⟩ := h
  simp [isSpace, ne_of_apply hc h0, ne_of_apply hc h1, ne_of_apply hc h2, ne_of_apply hc h3,
    ne_of_apply hc h4, ne_of_apply hc h5]

/-- A character of a kind that has none of the marks of comments, directives and literals. -/
theorem ne_marks {p : Char → Bool} {c : Char} (hc : p c)
    (h : ['/', '#', '"', '\''].all (!p ·)) : c ≠ '/' ∧ c ≠ '#' ∧ c ≠ '"' ∧ c ≠ '\'' := by
  simp only [List.all_cons, List.all_nil, Bool.and_true, Bool.and_eq_true, Bool.not_eq_true'] at h
  obtain ⟨hslash, hnumber, hdouble, hsingle⟩ := h
  exact ⟨ne_of_apply hc hslash, ne_of_apply hc hnumber, ne_of_apply hc hdouble,
    ne_of_apply hc hsingle⟩

theorem joins_of_isSpace {kind : TokenKind} {lexeme : List Char} {c : Char} (h : isSpace c) :
    joins kind lexeme c = false := by
  have hother : continuesIdentifier c = false ∧ continuesNumber c = false ∧ c ≠ '/' ∧ c ≠ '*' := by
    simp only [isSpace, Bool.or_eq_true, beq_iff_eq, or_assoc] at h
    rcases h with rfl | rfl | rfl | rfl | rfl | rfl <;> decide
  cases kind <;> simp [joins, hother]

theorem startsIdentifier_of_isDigit {c : Char} (h : c.isDigit) : startsIdentifier c = false := by
  have hbound : c.toNat ≤ 57 := (Char.isDigit_iff_toNat.mp h).2
  have halpha : c.isAlpha = false := by
    have hupper : ¬ 65 ≤ c.toNat := by omega
    have hlower : ¬ 97 ≤ c.toNat := by omega
    delta Char.isAlpha Char.isUpper Char.isLower
    simp [UInt32.le_iff_toNat_le, hupper, hlower]
  simp [startsIdentifier, halpha, ne_of_apply h (show Char.isDigit '_' = false by decide)]

theorem pieceAt_of_isLexeme {kind : TokenKind} {c : Char} {cs rest : List Char} {lineStart : Bool}
    (h : IsLexeme kind (c :: cs)) (hnext : ∀ next ∈ rest.head?, joins kind (c :: cs) next = false)
    (hmark : c = '#' → lineStart = false) :
    pieceAt lineStart c (cs ++ rest) = .ok ⟨some kind, cs.length⟩ := by
  cases h with
  | identifier hfirst hrest =>
    have hspace := isSpace_eq_false hfirst (by decide)
    have hmarks := ne_marks hfirst (by decide)
    have htake := takeWhile_append_eq hrest hnext
    simp [pieceAt, hspace, hmarks, hfirst, htake]
  | number hfirst hrest =>
    have hspace := isSpace_eq_false hfirst (by decide)
    have hmarks := ne_marks hfirst (by decide)
    have htake := takeWhile_append_eq hrest hnext
    simp [pieceAt, hspace, hmarks, startsIdentifier_of_isDigit hfirst, hfirst, htake]
  | literal hquote hclosed =>
    have hother : c ≠ '\\' ∧ c ≠ '/' ∧ c ≠ '#' ∧ isSpace c = false := by
      rcases hquote with rfl | rfl <;> decide
    have hlength := literalLength_append hother.1 hclosed rest
    simp [pieceAt, hother, hquote, hlength]
  | punctuation hspace hquote hidentifier hdigit =>
    have hcomment : ∀ next, joins .punctuation ['/'] next → ¬ (c = '/' ∧ rest.head? = some next) := by
      rintro next hjoins ⟨rfl, hhead⟩
      simp [hnext next hhead] at hjoins
    have hdirective : ¬ (c = '#' ∧ lineStart) := by
      rintro ⟨hc, hline⟩
      simp [hmark hc] at hline
    rw [List.nil_append, pieceAt, if_neg (by simp [hspace]), if_neg (hcomment '/' (by decide)),
      if_neg (hcomment '*' (by decide)), if_neg hdirective, if_neg hquote,
      if_neg (by simp [hidentifier]), if_neg (by simp [hdigit])]
    rfl

theorem isLexeme_of_pieceAt {kind : TokenKind} {c : Char} {cs : List Char} {lineStart : Bool}
    {n : Nat} (h : pieceAt lineStart c cs = .ok ⟨some kind, n⟩) :
    ∃ front rest, cs = front ++ rest ∧ front.length = n ∧ IsLexeme kind (c :: front) ∧
      (∀ next ∈ rest.head?, joins kind (c :: front) next = false) ∧
      (c = '#' → lineStart = false) := by
  unfold pieceAt at h
  split at h
  · cases h
  next hspace =>
  split at h
  · cases h
  next hline =>
  split at h
  · split at h <;> cases h
  next hblock =>
  split at h
  · cases h
  next hmark =>
  have hdirective : c = '#' → lineStart = false := fun hc ↦ by simpa [hc] using hmark
  split at h
  next hquote =>
    split at h
    next m hlength =>
      cases h
      have hescape : c ≠ '\\' := by rcases hquote with rfl | rfl <;> decide
      obtain ⟨front, rest, rfl, rfl, hother⟩ := exists_append_literalLength hescape hlength
      have hclosed := hother []
      rw [List.append_nil] at hclosed
      exact ⟨front, rest, rfl, rfl, .literal hquote hclosed, fun _ _ ↦ rfl, hdirective⟩
    next => cases h
  next hquote =>
  split at h
  next hfirst =>
    cases h
    obtain ⟨front, rest, rfl, htake, hall, hnext⟩ := exists_append_takeWhile continuesIdentifier cs
    exact ⟨front, rest, rfl, by rw [← htake], .identifier hfirst hall, hnext, hdirective⟩
  next hidentifier =>
  split at h
  next hfirst =>
    cases h
    obtain ⟨front, rest, rfl, htake, hall, hnext⟩ := exists_append_takeWhile continuesNumber cs
    exact ⟨front, rest, rfl, by rw [← htake], .number hfirst hall, hnext, hdirective⟩
  next hdigit =>
    cases h
    refine ⟨[], cs, rfl, rfl, .punctuation (by simpa using hspace) hquote (by simpa using hidentifier)
      (by simpa using hdigit), fun next hnext ↦ ?_, hdirective⟩
    rw [Option.mem_def] at hnext
    rw [hnext] at hline hblock
    simp only [Option.some.injEq, not_and] at hline hblock
    by_cases hc : c = '/'
    · simp [joins, hline hc, hblock hc]
    · simp [joins, hc]

/-! ## Gaps -/

theorem pieceAt_directive (cs : List Char) :
    pieceAt true '#' cs = .ok ⟨none, directiveLength cs⟩ := by
  rw [pieceAt, if_neg (by decide), if_neg (by simp), if_neg (by simp), if_pos ⟨rfl, rfl⟩]

/-- Before a line feed a gap ends where it did, unless it is a directive that a backslash at the end
of the text continues. -/
theorem pieceAt_append_feed {c : Char} {cs : List Char} {lineStart : Bool} {n : Nat}
    (h : pieceAt lineStart c cs = .ok ⟨none, n⟩) (rest : List Char) :
    n ≤ cs.length ∧ (pieceAt lineStart c (cs ++ '\n' :: rest) = .ok ⟨none, n⟩ ∨
      (c = '#' ∧ lineStart = true) ∧ directiveLength cs = cs.length ∧ EndsInBackslash cs) := by
  unfold pieceAt at h
  split at h
  next hspace =>
    cases h
    refine ⟨Nat.zero_le _, .inl ?_⟩
    rw [pieceAt, if_pos hspace]
  next hspace =>
  split at h
  next hline =>
    cases h
    refine ⟨lineLength_le cs, .inl ?_⟩
    rw [pieceAt, if_neg hspace, if_pos ⟨hline.1, by simp [List.head?_append, hline.2]⟩,
      lineLength_append_feed]
  next hline =>
  split at h
  next hblock =>
    split at h
    next m hlength =>
      cases h
      obtain ⟨rfl, hhead⟩ := hblock
      obtain ⟨ds, rfl⟩ := List.head?_eq_some_iff.mp hhead
      obtain ⟨hbound, hlength⟩ := commentLength_append hlength ('\n' :: rest)
      refine ⟨Nat.succ_le_succ hbound, .inl ?_⟩
      rw [List.tail_cons] at hlength
      simp [pieceAt, hspace, hlength]
    next => cases h
  next hblock =>
  split at h
  next hmark =>
    cases h
    obtain ⟨rfl, rfl⟩ := hmark
    obtain ⟨hbound, hsame | hopen⟩ := directiveLength_append_feed cs rest
    · exact ⟨hbound, .inl (by rw [pieceAt_directive, hsame])⟩
    · exact ⟨hbound, .inr ⟨⟨rfl, rfl⟩, hopen⟩⟩
  next hmark =>
  split at h
  · split at h <;> cases h
  · split at h
    · cases h
    · split at h <;> cases h

end ExportTable.CSource
