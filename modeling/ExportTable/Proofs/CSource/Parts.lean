import ExportTable.Proofs.CSource.Faults
import ExportTable.Proofs.CSource.Respelling

/-!
# A text as tokens and gaps

A text that is read is a row of parts: tokens, and between them the blanks, comments and directives
of the gaps. Whether a part may stand somewhere is said by the parts before it and the character
after it. Reading finds exactly such a row, and where it fails, a row up to the fault.
-/

namespace ExportTable.CSource

/-- A token, or one of the parts of a gap. -/
inductive Part where
  | blank (c : Char)
  /-- The text after the two slashes. -/
  | lineComment (body : List Char)
  /-- The text between the two marks. -/
  | blockComment (body : List Char)
  /-- The text after the number sign. -/
  | directive (body : List Char)
  | token (t : Token)

namespace Part

def text : Part → List Char
  | blank c => [c]
  | lineComment body => '/' :: '/' :: body
  | blockComment body => '/' :: '*' :: (body ++ ['*', '/'])
  | directive body => '#' :: body
  | token t => t.text.toList

def token? : Part → Option Token
  | token t => some t
  | _ => none

/-- The characters of the part, each with whether it belongs to a token. -/
def marked (part : Part) : List (Char × Bool) := part.text.map (·, part.token?.isSome)

end Part

def textOf (parts : List Part) : List Char := parts.flatMap Part.text

def tokensOf (parts : List Part) : List Token := parts.filterMap Part.token?

/-- Some character of a token has no line feed after it. -/
def TokenOnLine (parts : List Part) : Prop :=
  ∃ front line, parts.flatMap Part.marked = front ++ line ∧ '\n' ∉ line.map Prod.fst ∧
    true ∈ line.map Prod.snd

/-- The gap after the last token is not empty. -/
def EndsInGap (parts : List Part) : Prop := ∃ part ∈ parts.getLast?, part.token? = none

/-- The token tells what its place decides, and its text is a whole token. -/
structure Token.Fits (before : List Part) (next : Option Char) (t : Token) : Prop where
  isLexeme : IsLexeme t.kind t.text.toList
  maximal : ∀ c ∈ next, joins t.kind t.text.toList c = false
  line_eq : t.line = 1 + (textOf before).count '\n'
  spaced_iff : t.spaced ↔ EndsInGap before
  no_directive : t.text = "#" → TokenOnLine before

/-- The part may stand between the parts before it and the next character. A directive ends at the
first line feed that has neither a backslash before it nor a backslash and a carriage return. -/
def Part.Fits (before : List Part) (next : Option Char) : Part → Prop
  | blank c => isSpace c
  | lineComment body => '\n' ∉ body ∧ ∀ c ∈ next, c = '\n'
  | blockComment body => ¬ ClosesComment body
  | directive body =>
    ¬ TokenOnLine before ∧
      (∀ front back, body = front ++ '\n' :: back → EndsInBackslash front) ∧
      ∀ c ∈ next, c = '\n' ∧ ¬ EndsInBackslash body
  | token t => t.Fits before next

/-- Each of the parts may stand where it does: after other parts, and before the rest of the text. -/
def Fit (before : List Part) : List Part → List Char → Prop
  | [], _ => True
  | part :: parts, rest =>
    part.Fits before (textOf parts ++ rest).head? ∧ Fit (before ++ [part]) parts rest

theorem Fit.congr {before parts : List Part} {rest other : List Char} (h : Fit before parts rest)
    (hhead : rest.head? = other.head?) : Fit before parts other := by
  induction parts generalizing before with
  | nil => trivial
  | cons part parts ih =>
    refine ⟨?_, ih h.2⟩
    rw [List.head?_append, ← hhead, ← List.head?_append]
    exact h.1

theorem fit_concat {before parts : List Part} {part : Part} {rest : List Char} :
    Fit before (parts ++ [part]) rest ↔
      Fit before parts (part.text ++ rest) ∧ part.Fits (before ++ parts) rest.head? := by
  induction parts generalizing before with
  | nil => simp [Fit, textOf]
  | cons first parts ih => simp [Fit, textOf, ih, and_assoc]

theorem Part.Fits.exists_cons {before : List Part} {next : Option Char} {part : Part}
    (h : part.Fits before next) : ∃ c cs, part.text = c :: cs := by
  cases part with
  | token t => exact Token.Fits.isLexeme h |>.exists_cons
  | _ => exact ⟨_, _, rfl⟩

/-! ## Gaps -/

section Gap

variable {before : List Part} {lineStart : Bool} {c : Char} {cs rest : List Char} {n : Nat}
  (hline : lineStart = true ↔ ¬ TokenOnLine before)

include hline

theorem exists_gap_of_pieceAt (h : pieceAt lineStart c cs = .ok ⟨none, n⟩) :
    ∃ (part : Part) (front back : List Char), part.token? = none ∧ part.text = c :: front ∧
      cs = front ++ back ∧ front.length = n ∧ part.Fits before back.head? := by
  unfold pieceAt at h
  split at h
  next hspace =>
    cases h
    exact ⟨.blank c, [], cs, rfl, rfl, rfl, rfl, hspace⟩
  split at h
  next hmark =>
    cases h
    obtain ⟨rfl, hhead⟩ := hmark
    obtain ⟨ds, rfl⟩ := List.head?_eq_some_iff.mp hhead
    obtain ⟨front, back, hsplit, htake, hall, hnext⟩ :=
      exists_append_takeWhile (· != '\n') ds
    refine ⟨.lineComment front, '/' :: front, back, rfl, rfl, by rw [hsplit]; rfl, ?_, ?_, ?_⟩
    · simp [lineLength, htake]
    · exact fun hmem ↦ absurd (List.all_eq_true.mp hall _ hmem) (by decide)
    · simpa using hnext
  split at h
  next hmark =>
    split at h
    next m hlength =>
      cases h
      obtain ⟨rfl, hhead⟩ := hmark
      obtain ⟨ds, rfl⟩ := List.head?_eq_some_iff.mp hhead
      obtain ⟨body, back, hsplit, hbody, rfl⟩ := exists_of_commentLength hlength
      rw [List.tail_cons] at hsplit
      refine ⟨.blockComment body, '*' :: (body ++ ['*', '/']), back, rfl, rfl, ?_, ?_, hbody⟩
      · simp [hsplit]
      · simp
    next => cases h
  split at h
  next hmark =>
    cases h
    obtain ⟨front, back, hsplit, hlength, hfront, hnext⟩ := exists_append_directiveLength cs
    rw [hmark.1]
    exact ⟨.directive front, front, back, rfl, rfl, hsplit, hlength, hline.mp hmark.2,
      continued_iff.mp hfront, hnext⟩
  split at h
  · split at h <;> cases h
  split at h
  · cases h
  split at h <;> cases h

theorem pieceAt_of_gap {part : Part} (hgap : part.token? = none)
    (h : part.Fits before rest.head?) :
    ∃ c cs, part.text = c :: cs ∧ pieceAt lineStart c (cs ++ rest) = .ok ⟨none, cs.length⟩ := by
  cases part with
  | blank c =>
    have hspace : isSpace c := h
    exact ⟨c, [], rfl, by rw [pieceAt, if_pos hspace]; rfl⟩
  | lineComment body =>
    obtain ⟨hbody, hnext⟩ := h
    have hall : body.all (· != '\n') := by
      rw [List.all_eq_true]
      intro c hc
      simpa using ne_of_mem_of_not_mem hc hbody
    have htake : (body ++ rest).takeWhile (· != '\n') = body :=
      takeWhile_append_eq hall (by simpa using hnext)
    exact ⟨'/', '/' :: body, rfl, by simp [pieceAt, isSpace, lineLength, htake]⟩
  | blockComment body =>
    have hlength := commentLength_append_mark h rest
    exact ⟨'/', '*' :: (body ++ ['*', '/']), rfl, by simp [pieceAt, isSpace, hlength]⟩
  | directive body =>
    obtain ⟨hstart, hbody, hnext⟩ := h
    refine ⟨'#', body, rfl, ?_⟩
    rw [hline.mpr hstart, pieceAt_directive, (continued_iff.mpr hbody).directiveLength_append hnext]
  | token t => cases hgap

end Gap

/-! ## The state of reading -/

section TokenOnLine

variable {before : List Part} {part : Part}

theorem tokenOnLine_concat_gap (hgap : part.token? = none) :
    TokenOnLine (before ++ [part]) ↔ TokenOnLine before ∧ '\n' ∉ part.text := by
  have hmarked : (before ++ [part]).flatMap Part.marked =
      before.flatMap Part.marked ++ part.text.map (·, false) := by
    simp [Part.marked, hgap]
  rw [TokenOnLine, hmarked]
  constructor
  · rintro ⟨front, line, hsplit, hfeed, htoken⟩
    rcases List.append_eq_append_iff.mp hsplit with ⟨inner, -, hline⟩ | ⟨inner, hfront, rfl⟩
    · -- A line inside the gap holds no token.
      have hmem : true ∈ (part.text.map (·, false)).map Prod.snd := by
        rw [hline, List.map_append]
        exact List.mem_append_right _ htoken
      simp at hmem
    · have hinner : true ∈ inner.map Prod.snd := by simpa using htoken
      have hparts : '\n' ∉ inner.map Prod.fst ∧ '\n' ∉ part.text := by simpa using hfeed
      exact ⟨⟨front, inner, hfront, hparts.1, hinner⟩, hparts.2⟩
  · rintro ⟨⟨front, line, hsplit, hfeed, htoken⟩, htext⟩
    refine ⟨front, line ++ part.text.map (·, false), by rw [hsplit, List.append_assoc], ?_, ?_⟩
    · simpa [htext] using hfeed
    · rw [List.map_append]
      exact List.mem_append_left _ htoken

theorem tokenOnLine_concat_token {t : Token} (ht : IsLexeme t.kind t.text.toList) :
    TokenOnLine (before ++ [.token t]) := by
  obtain ⟨front, c, htext, hc⟩ := ht.exists_concat
  refine ⟨before.flatMap Part.marked ++ front.map (·, true), [(c, true)], ?_, ?_, ?_⟩
  · simp [Part.marked, Part.text, Part.token?, htext]
  · simpa using Ne.symm hc
  · simp

end TokenOnLine

theorem endsInGap_concat {before : List Part} {part : Part} :
    EndsInGap (before ++ [part]) ↔ part.token? = none := by
  simp [EndsInGap]

/-- The state is what the parts before decide. -/
structure LexState.Follows (s : LexState) (before : List Part) : Prop where
  line_eq : s.line = 1 + (textOf before).count '\n'
  lineStart_iff : s.lineStart = true ↔ ¬ TokenOnLine before
  spaced_iff : s.spaced = true ↔ EndsInGap before

theorem follows_initial : LexState.initial.Follows [] where
  line_eq := rfl
  lineStart_iff := by simp [LexState.initial, TokenOnLine]
  spaced_iff := by simp [LexState.initial, EndsInGap]

namespace LexState.Follows

variable {s : LexState} {before : List Part}

theorem gap (h : s.Follows before) {part : Part} (hgap : part.token? = none) :
    (s.after none part.text).Follows (before ++ [part]) where
  line_eq := by simp [LexState.after, h.line_eq, textOf, Nat.add_assoc]
  lineStart_iff := by
    rw [tokenOnLine_concat_gap hgap, not_and_or, ← h.lineStart_iff]
    simp [LexState.after]
  spaced_iff := by simp [LexState.after, endsInGap_concat, hgap]

theorem token (h : s.Follows before) {t : Token} (ht : IsLexeme t.kind t.text.toList) :
    (s.after (some t.kind) t.text.toList).Follows (before ++ [.token t]) where
  line_eq := by simp [LexState.after, h.line_eq, textOf, Part.text, Nat.add_assoc]
  lineStart_iff := by simp [LexState.after, tokenOnLine_concat_token ht]
  spaced_iff := by simp [LexState.after, endsInGap_concat, Part.token?]

end LexState.Follows

theorem exists_fit_of_reads {s last : LexState} {cs rest : List Char} {tokens : List Token}
    (h : Reads s cs tokens last rest) {before : List Part} (hs : s.Follows before) :
    ∃ parts, textOf parts ++ rest = cs ∧ tokensOf parts = tokens ∧ Fit before parts rest ∧
      last.Follows (before ++ parts) := by
  induction h generalizing before with
  | nil => exact ⟨[], rfl, rfl, trivial, by rwa [List.append_nil]⟩
  | @gap s last c cs rest n tokens hpiece _ ih =>
    obtain ⟨part, front, back, hgap, htext, rfl, rfl, hfits⟩ :=
      exists_gap_of_pieceAt hs.lineStart_iff hpiece
    rw [List.take_left, ← htext] at ih
    obtain ⟨parts, hrest, htokens, hfit, hlast⟩ := ih (hs.gap hgap)
    rw [List.drop_left] at hrest
    refine ⟨part :: parts, ?_, ?_, ⟨?_, hfit⟩, by simpa using hlast⟩
    · simp [textOf, htext, ← hrest]
    · simp [tokensOf, hgap, ← htokens]
    · rwa [hrest]
  | @token s last c cs rest kind n tokens hpiece _ ih =>
    obtain ⟨front, back, rfl, rfl, hlexeme, hnext, hmark⟩ := isLexeme_of_pieceAt hpiece
    have htext : (String.ofList (c :: front)).toList = c :: front := String.toList_ofList
    have hfits : (⟨kind, String.ofList (c :: front), s.line, s.spaced⟩ : Token).Fits before
        back.head? := by
      refine ⟨?_, ?_, hs.line_eq, hs.spaced_iff, fun hsharp ↦ ?_⟩
      · simpa using hlexeme
      · simpa using hnext
      · have hc : c = '#' := by
          have hlist := congrArg String.toList hsharp
          rw [htext] at hlist
          exact (List.cons.inj hlist).1
        by_contra hline
        rw [hs.lineStart_iff.mpr hline] at hmark
        cases hmark hc
    have hfollows := hs.token hfits.isLexeme
    rw [htext] at hfollows
    rw [List.take_left, List.drop_left] at ih
    obtain ⟨parts, hrest, htokens, hfit, hlast⟩ := ih hfollows
    rw [List.take_left]
    refine ⟨_ :: parts, ?_, ?_, ⟨?_, hfit⟩, by simpa using hlast⟩
    · simp [textOf, Part.text, ← hrest]
    · simp [tokensOf, Part.token?, ← htokens]
    · rw [hrest]
      exact hfits

theorem exists_reads_of_fit {parts before : List Part} {rest : List Char}
    (h : Fit before parts rest) {s : LexState} (hs : s.Follows before) :
    ∃ last, Reads s (textOf parts ++ rest) (tokensOf parts) last rest ∧
      last.Follows (before ++ parts) := by
  induction parts generalizing before s with
  | nil => exact ⟨s, .nil, by rwa [List.append_nil]⟩
  | cons part parts ih =>
    obtain ⟨hfits, hfit⟩ := h
    cases hgap : part.token? with
    | none =>
      obtain ⟨c, cs, htext, hpiece⟩ := pieceAt_of_gap hs.lineStart_iff hgap hfits
      obtain ⟨last, hreads, hlast⟩ := ih hfit (hs.gap hgap)
      have htokens : tokensOf (part :: parts) = tokensOf parts := by simp [tokensOf, hgap]
      have hchars : textOf (part :: parts) ++ rest = c :: (cs ++ (textOf parts ++ rest)) := by
        simp [textOf, htext]
      have hpart := reads_gap hpiece
      rw [← htext] at hpart
      refine ⟨last, ?_, by simpa using hlast⟩
      rw [htokens, hchars]
      exact hpart.trans hreads
    | some t =>
      obtain rfl : part = .token t := by
        cases part <;> cases hgap
        rfl
      have ht : t.Fits before (textOf parts ++ rest).head? := hfits
      have hplace : { t with line := s.line, spaced := s.spaced } = t := by
        have hspaced : s.spaced = t.spaced := by
          rw [Bool.eq_iff_iff, hs.spaced_iff, ht.spaced_iff]
        rw [hs.line_eq, ← ht.line_eq, hspaced]
      have hmark : t.text.toList.head? = some '#' → s.lineStart = false := by
        intro hhead
        obtain ⟨cs, hcs⟩ := List.head?_eq_some_iff.mp hhead
        have hlexeme := ht.isLexeme
        rw [hcs] at hlexeme
        rw [hlexeme.eq_numberSign] at hcs
        have htoken := ht.no_directive (String.toList_inj.mp hcs)
        simpa [htoken] using hs.lineStart_iff
      have hread := reads_token ht.isLexeme ht.maximal hmark
      rw [hplace] at hread
      obtain ⟨last, hreads, hlast⟩ := ih hfit (hs.token ht.isLexeme)
      refine ⟨last, ?_, by simpa using hlast⟩
      simpa [textOf, tokensOf, Part.text, Part.token?] using hread.trans hreads

/-! ## Cuts -/

/-- Reading cuts the text into the parts. -/
structure IsCut (parts : List Part) (source : String) : Prop where
  text_eq : textOf parts = source.toList
  fit : Fit [] parts []

theorem exists_isCut_of_tokenize {source : String} {tokens : List Token}
    (h : tokenize source = .ok tokens) : ∃ parts, IsCut parts source ∧ tokensOf parts = tokens := by
  obtain ⟨last, hreads⟩ := reads_of_tokenize h
  obtain ⟨parts, htext, htokens, hfit, _⟩ := exists_fit_of_reads hreads follows_initial
  rw [List.append_nil] at htext
  exact ⟨parts, ⟨htext, hfit⟩, htokens⟩

namespace IsCut

variable {parts : List Part} {source : String}

theorem exists_reads (h : IsCut parts source) :
    ∃ last : LexState, Reads .initial source.toList (tokensOf parts) last [] ∧
      last.Follows parts := by
  obtain ⟨last, hreads, hlast⟩ := exists_reads_of_fit h.fit follows_initial
  rw [List.append_nil, h.text_eq] at hreads
  exact ⟨last, hreads, hlast⟩

theorem tokenize_eq (h : IsCut parts source) : tokenize source = .ok (tokensOf parts) := by
  obtain ⟨last, hreads, _⟩ := h.exists_reads
  rw [tokenize, tokenizeFrom_of_reads hreads, tokenizeFrom, ok_map, List.append_nil]

end IsCut

/-- A text is read as its tokens exactly if it is a row of parts with these tokens, and cannot be read
exactly if it is such a row up to a fault, which is reported with its line. -/
theorem tokenize_cuts (source : String) :
    (∀ tokens, tokenize source = .ok tokens ↔
      ∃ parts, textOf parts = source.toList ∧ tokensOf parts = tokens ∧ Fit [] parts []) ∧
    ∀ e, tokenize source = .error e ↔
      ∃ parts rest, textOf parts ++ rest = source.toList ∧ Fit [] parts rest ∧
        e.line = 1 + (textOf parts).count '\n' ∧ e.fault.Begins rest := by
  refine ⟨fun tokens ↦ ⟨fun h ↦ ?_, ?_⟩, fun e ↦ ⟨fun h ↦ ?_, ?_⟩⟩
  · obtain ⟨parts, hcut, htokens⟩ := exists_isCut_of_tokenize h
    exact ⟨parts, hcut.text_eq, htokens, hcut.fit⟩
  · rintro ⟨parts, htext, rfl, hfit⟩
    exact IsCut.tokenize_eq ⟨htext, hfit⟩
  · obtain ⟨tokens, last, rest, hreads, hline, hfault⟩ := exists_reads_of_error h
    obtain ⟨parts, htext, _, hfit, hlast⟩ := exists_fit_of_reads hreads follows_initial
    exact ⟨parts, rest, htext, hfit, hline.trans hlast.line_eq, hfault⟩
  · rintro ⟨parts, rest, htext, hfit, hline, hfault⟩
    obtain ⟨last, hreads, hlast⟩ := exists_reads_of_fit hfit follows_initial
    rw [htext] at hreads
    exact tokenizeFrom_of_fault hreads (hline.trans hlast.line_eq.symm) hfault

end ExportTable.CSource
