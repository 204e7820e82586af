import ExportTable.Proofs.CSource.Parts

/-!
# Texts read line after line

A line feed after a text that is read, and that no backslash ends, closes whatever the text ends in: a
comment or a directive of one line, a name, a number. What follows is read as it is on its own, with
the same tokens and the same fault, but for the lines, which are counted from the start of the whole
text, and for the gap before the first token.
-/

namespace ExportTable.CSource

/-! ## Places -/

/-- The token where further lines stand above it. -/
def Token.below (lines : Nat) (t : Token) : Token := { t with line := t.line + lines }

/-- The fault where further lines stand above it. -/
def LexError.below (lines : Nat) (e : LexError) : LexError := { e with line := e.line + lines }

/-- The tokens where a gap stands before the first one. -/
def afterGap : List Token → List Token
  | [] => []
  | t :: ts => { t with spaced := true } :: ts

namespace LexState

def below (lines : Nat) (s : LexState) : LexState := { s with line := s.line + lines }

def afterGap (s : LexState) : LexState := { s with spaced := true }

theorem after_below (lines : Nat) (s : LexState) (kind : Option TokenKind) (lexeme : List Char) :
    (s.below lines).after kind lexeme = (s.after kind lexeme).below lines := by
  simp [after, below, Nat.add_right_comm]

theorem after_afterGap (s : LexState) (kind : Option TokenKind) (lexeme : List Char) :
    s.afterGap.after kind lexeme = s.after kind lexeme := rfl

end LexState

/-- Only the lines depend on what stands above. -/
theorem tokenizeFrom_below (lines : Nat) (s : LexState) (cs : List Char) :
    tokenizeFrom (s.below lines) cs =
      ((tokenizeFrom s cs).map (List.map (Token.below lines))).mapError (LexError.below lines) := by
  fun_induction tokenizeFrom s cs with
  | case1 =>
    rw [tokenizeFrom]
    rfl
  | case2 s c cs fault hpiece =>
    rw [tokenizeFrom_fault (s := s.below lines) hpiece]
    rfl
  | case3 s c cs piece hpiece lexeme rest hkind ih =>
    obtain ⟨kind, n⟩ := piece
    cases hkind
    rw [tokenizeFrom_gap (s := s.below lines) hpiece, s.after_below]
    exact ih
  | case4 s c cs piece hpiece lexeme rest kind hkind ih =>
    obtain ⟨_, n⟩ := piece
    cases hkind
    rw [tokenizeFrom_token (s := s.below lines) hpiece, s.after_below]
    have hrest : tokenizeFrom ((s.after (some kind) (c :: cs.take n)).below lines) (cs.drop n) =
        (rest.map (List.map (Token.below lines))).mapError (LexError.below lines) := ih
    rw [hrest]
    cases rest <;> rfl

/-- Only the first token depends on whether a gap stands before the text. -/
theorem tokenizeFrom_afterGap (s : LexState) (cs : List Char) :
    tokenizeFrom s.afterGap cs = (tokenizeFrom s cs).map afterGap := by
  fun_induction tokenizeFrom s cs with
  | case1 =>
    rw [tokenizeFrom]
    rfl
  | case2 s c cs fault hpiece =>
    rw [tokenizeFrom_fault (s := s.afterGap) hpiece]
    rfl
  | case3 s c cs piece hpiece lexeme rest hkind ih =>
    obtain ⟨kind, n⟩ := piece
    cases hkind
    -- A gap that goes on is a gap.
    rw [tokenizeFrom_gap (s := s.afterGap) hpiece]
    exact ih
  | case4 s c cs piece hpiece lexeme rest kind hkind =>
    obtain ⟨_, n⟩ := piece
    cases hkind
    rw [tokenizeFrom_token (s := s.afterGap) hpiece, s.after_afterGap]
    change rest.map _ = _
    cases rest <;> rfl

/-! ## Line ends -/

/-- A line feed at the end of a text belongs to a gap. -/
theorem endsInGap_of_feed {parts : List Part} {front rest : List Char} (hfit : Fit [] parts rest)
    (htext : textOf parts = front ++ ['\n']) : EndsInGap parts := by
  rcases List.eq_nil_or_concat' parts with rfl | ⟨before, part, rfl⟩
  · exact absurd htext (by simp [textOf])
  rw [endsInGap_concat]
  have hpart := (fit_concat.mp hfit).2
  cases part with
  | token t =>
    obtain ⟨inner, c, hlexeme, hc⟩ := (Token.Fits.isLexeme hpart).exists_concat
    have hlast : (textOf (before ++ [.token t])).getLast? = some c := by
      simp [textOf, Part.text, hlexeme]
    rw [htext, List.getLast?_concat] at hlast
    exact absurd (Option.some.inj hlast).symm hc
  | _ => rfl

/-- After a line feed that no backslash stands before, reading begins anew on the next line. -/
theorem reads_line {front : String} {tokens : List Token} (h : tokenize front = .ok tokens)
    (hend : ¬ EndsInBackslash front.toList) (rest : List Char) :
    Reads .initial (front.toList ++ '\n' :: rest) tokens
      (LexState.initial.below (1 + front.toList.count '\n')).afterGap rest := by
  obtain ⟨middle, hreads⟩ := reads_of_tokenize h
  obtain ⟨last, between, hline, hlast⟩ := hreads.append_line rest
  obtain ⟨hstart, rfl⟩ := hlast (.inl hend)
  obtain ⟨parts, htext, _, hfit, hfollows⟩ := exists_fit_of_reads hline follows_initial
  have hsame : textOf parts ++ between = front.toList ++ ['\n'] ++ between := by simpa using htext
  have hwhole : textOf parts = front.toList ++ ['\n'] := List.append_cancel_right hsame
  rw [List.nil_append] at hfollows
  have hnumber : last.line = 1 + (1 + front.toList.count '\n') := by
    rw [hfollows.line_eq, hwhole, List.count_append]
    simp [Nat.add_comm]
  have hspaced : last.spaced = true := hfollows.spaced_iff.mpr (endsInGap_of_feed hfit hwhole)
  have hstate : last = (LexState.initial.below (1 + front.toList.count '\n')).afterGap := by
    obtain ⟨line, lineStart, spaced⟩ := last
    cases hnumber
    cases hstart
    cases hspaced
    rfl
  rwa [← hstate]

theorem tokenize_append_line_eq {front : String} {tokens : List Token}
    (h : tokenize front = .ok tokens) (hend : ¬ EndsInBackslash front.toList) (back : String) :
    tokenize (front ++ "\n" ++ back) =
      ((tokenize back).map fun later ↦
        tokens ++ afterGap (later.map (Token.below (1 + front.toList.count '\n')))).mapError
          (LexError.below (1 + front.toList.count '\n')) := by
  have htext : (front ++ "\n" ++ back).toList = front.toList ++ '\n' :: back.toList := by simp
  rw [tokenize, htext, tokenizeFrom_of_reads (reads_line h hend back.toList),
    tokenizeFrom_afterGap, tokenizeFrom_below, tokenize]
  cases tokenizeFrom .initial back.toList <;> rfl

/-- Where a text that is read goes on after a line feed, the text after it is read as on its own, with
its tokens below those of the first one; it cannot be read exactly if it cannot on its own, and for
the same fault. -/
theorem tokenize_append_line {front : String} {tokens : List Token}
    (hfront : tokenize front = .ok tokens) (hend : ¬ EndsInBackslash front.toList) (back : String) :
    (∀ all, tokenize (front ++ "\n" ++ back) = .ok all ↔ ∃ later, tokenize back = .ok later ∧
      all = tokens ++ afterGap (later.map (Token.below (1 + front.toList.count '\n')))) ∧
    ∀ e, tokenize (front ++ "\n" ++ back) = .error e ↔ ∃ fault, tokenize back = .error fault ∧
      e = fault.below (1 + front.toList.count '\n') := by
  rw [tokenize_append_line_eq hfront hend back]
  cases tokenize back with
  | error fault => simp [Except.map, Except.mapError, eq_comm]
  | ok later => simp [Except.map, Except.mapError, eq_comm]

def commentedLines : String := "a /*\n*/ // b"

theorem tokenize_append_line_commentedLines :
    tokenize commentedLines = .ok [⟨.identifier, "a", 1, false⟩] ∧
      ¬ EndsInBackslash commentedLines.toList ∧
      tokenize (commentedLines ++ "\n" ++ "#c\nd") =
        .ok [⟨.identifier, "a", 1, false⟩, ⟨.identifier, "d", 4, true⟩] ∧
      tokenize (commentedLines ++ "\n" ++ "d\ne") =
        .ok [⟨.identifier, "a", 1, false⟩, ⟨.identifier, "d", 3, true⟩,
          ⟨.identifier, "e", 4, true⟩] ∧
      tokenize (commentedLines ++ "\n" ++ "d\n'e") = .error ⟨4, .unterminatedLiteral⟩ := by
  have hfront : tokenize commentedLines = .ok [⟨.identifier, "a", 1, false⟩] := by decide +kernel
  have hend : ¬ EndsInBackslash commentedLines.toList := by decide +kernel
  refine ⟨hfront, hend, ?_, ?_, ?_⟩
  · exact ((tokenize_append_line hfront hend "#c\nd").1 _).mpr
      ⟨[⟨.identifier, "d", 2, true⟩], by decide +kernel, by decide +kernel⟩
  · exact ((tokenize_append_line hfront hend "d\ne").1 _).mpr
      ⟨[⟨.identifier, "d", 1, false⟩, ⟨.identifier, "e", 2, true⟩], by decide +kernel,
        by decide +kernel⟩
  · exact ((tokenize_append_line hfront hend "d\n'e").2 _).mpr
      ⟨⟨2, .unterminatedLiteral⟩, by decide +kernel, by decide +kernel⟩

end ExportTable.CSource
