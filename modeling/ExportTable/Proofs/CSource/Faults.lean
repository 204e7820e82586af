import ExportTable.Proofs.CSource.Reading

/-!
# What opens and is not closed

Reading fails at a quote without a closing one on its line, and at the start mark of a comment without
an end mark. Everything before that place is read.
-/

namespace ExportTable.CSource

/-! ## Comments -/

/-- The end mark of a comment stands in the text. -/
def ClosesComment (cs : List Char) : Prop := ['*', '/'] <:+: cs

instance (cs : List Char) : Decidable (ClosesComment cs) :=
  inferInstanceAs (Decidable (['*', '/'] <:+: cs))

theorem not_closesComment_nil : ¬ ClosesComment [] := by decide

theorem closesComment_cons {c : Char} {cs : List Char} :
    ClosesComment (c :: cs) ↔ (c = '*' ∧ cs.head? = some '/') ∨ ClosesComment cs := by
  rw [ClosesComment, List.infix_cons_iff, List.cons_prefix_cons, eq_comm]
  refine or_congr_left (and_congr_right fun _ ↦ ?_)
  cases cs <;> simp [List.cons_prefix_cons, eq_comm]

/-- An end mark does not reach over another character. -/
theorem closesComment_append_cons {c : Char} (hstar : c ≠ '*') (hslash : c ≠ '/')
    {front back : List Char} :
    ClosesComment (front ++ c :: back) ↔ ClosesComment front ∨ ClosesComment back := by
  induction front with
  | nil => simp [closesComment_cons, not_closesComment_nil, hstar]
  | cons d front ih =>
    have hhead : (front ++ c :: back).head? = some '/' ↔ front.head? = some '/' := by
      cases front <;> simp [hslash]
    rw [List.cons_append, closesComment_cons, closesComment_cons, ih, hhead, or_assoc]

/-- The first end mark closes a comment. -/
theorem commentLength_append_mark {body : List Char} (h : ¬ ClosesComment body)
    (rest : List Char) : commentLength (body ++ '*' :: '/' :: rest) = some (body.length + 2) := by
  induction body with
  | nil => rfl
  | cons c cs ih =>
    rw [closesComment_cons, not_or] at h
    have hopen : ∀ tail, c = '*' → cs ++ '*' :: '/' :: rest = '/' :: tail → False := by
      intro tail hc htail
      cases cs with
      | nil => cases htail
      | cons d ds =>
        cases htail
        exact h.1 ⟨hc, rfl⟩
    rw [List.cons_append, commentLength.eq_2 _ _ hopen, ih h.2]
    simp

theorem exists_of_commentLength {cs : List Char} {n : Nat} (h : commentLength cs = some n) :
    ∃ body rest, cs = body ++ '*' :: '/' :: rest ∧ ¬ ClosesComment body ∧ n = body.length + 2 := by
  fun_induction commentLength cs generalizing n with
  | case1 rest =>
    cases h
    exact ⟨[], rest, rfl, not_closesComment_nil, rfl⟩
  | case2 c cs hopen ih =>
    obtain ⟨m, hm, rfl⟩ := Option.map_eq_some_iff.mp h
    obtain ⟨body, rest, rfl, hbody, rfl⟩ := ih hm
    refine ⟨c :: body, rest, rfl, ?_, rfl⟩
    rw [closesComment_cons, not_or]
    refine ⟨?_, hbody⟩
    rintro ⟨hc, hhead⟩
    obtain ⟨tail, rfl⟩ := List.head?_eq_some_iff.mp hhead
    exact hopen (tail ++ '*' :: '/' :: rest) hc rfl
  | case3 => cases h

theorem commentLength_eq_none_iff {cs : List Char} :
    commentLength cs = none ↔ ¬ ClosesComment cs := by
  fun_induction commentLength cs with
  | case1 rest => simp [closesComment_cons]
  | case2 c cs hopen ih =>
    have hmark : ¬ (c = '*' ∧ cs.head? = some '/') := by
      rintro ⟨hc, hhead⟩
      obtain ⟨tail, rfl⟩ := List.head?_eq_some_iff.mp hhead
      exact hopen tail hc rfl
    rw [Option.map_eq_none_iff, ih, closesComment_cons, or_iff_right hmark]
  | case3 => simp [not_closesComment_nil]

/-! ## Literals -/

/-- The text, which follows a quote, ends in a backslash that takes the next character. -/
def endsInEscape : List Char → Bool
  | '\\' :: _ :: cs => endsInEscape cs
  | ['\\'] => true
  | _ :: cs => endsInEscape cs
  | [] => false

/-- The character stands in the text, and no backslash takes it. -/
def OccursFree (c : Char) (cs : List Char) : Prop :=
  ∃ front back, cs = front ++ c :: back ∧ endsInEscape front = false

theorem endsInEscape_cons {c : Char} (hc : c ≠ '\\') (cs : List Char) :
    endsInEscape (c :: cs) = endsInEscape cs :=
  endsInEscape.eq_3 _ _ (fun _ _ heq ↦ absurd heq hc) fun heq ↦ absurd heq hc

theorem endsInEscape_concat {c : Char} (hc : c ≠ '\\') (cs : List Char) :
    endsInEscape (cs ++ [c]) = false := by
  fun_induction endsInEscape cs with
  | case1 d cs ih => exact ih
  | case2 => rfl
  | case3 d cs hescape hlast ih =>
    have hd : d ≠ '\\' := by
      rintro rfl
      cases cs with
      | nil => exact hlast rfl rfl
      | cons e cs => exact hescape e cs rfl rfl
    rw [List.cons_append, endsInEscape_cons hd, ih]
  | case4 => rw [List.nil_append, endsInEscape_cons hc, endsInEscape]

theorem occursFree_cons {c d : Char} (hd : d ≠ '\\') {cs : List Char} :
    OccursFree c (d :: cs) ↔ d = c ∨ OccursFree c cs := by
  constructor
  · rintro ⟨_ | ⟨e, front⟩, back, hsplit, hfree⟩
    · exact .inl (List.cons.inj hsplit).1
    · obtain ⟨rfl, rfl⟩ := List.cons.inj hsplit
      rw [endsInEscape_cons hd] at hfree
      exact .inr ⟨front, back, rfl, hfree⟩
  · rintro (rfl | ⟨front, back, rfl, hfree⟩)
    · exact ⟨[], cs, rfl, rfl⟩
    · exact ⟨d :: front, back, rfl, by rw [endsInEscape_cons hd, hfree]⟩

theorem occursFree_escape {c d : Char} (hc : c ≠ '\\') {cs : List Char} :
    OccursFree c ('\\' :: d :: cs) ↔ OccursFree c cs := by
  constructor
  · rintro ⟨_ | ⟨e, _ | ⟨e', front⟩⟩, back, hsplit, hfree⟩
    · exact absurd (List.cons.inj hsplit).1.symm hc
    · obtain ⟨rfl, _⟩ := List.cons.inj hsplit
      cases hfree
    · cases hsplit
      exact ⟨front, back, rfl, hfree⟩
  · rintro ⟨front, back, rfl, hfree⟩
    exact ⟨'\\' :: d :: front, back, rfl, hfree⟩

/-- Whatever closing quote stands in the text comes after the end of the line. -/
def LeavesOpen (quote : Char) (cs : List Char) : Prop :=
  ∀ front back, cs = front ++ quote :: back → endsInEscape front = false → OccursFree '\n' front

theorem leavesOpen_nil {quote : Char} : LeavesOpen quote [] := by
  intro front back hsplit _
  exact absurd hsplit (by simp)

theorem leavesOpen_cons {quote c : Char} (hquote : c ≠ quote) (hescape : c ≠ '\\')
    (hline : c ≠ '\n') {cs : List Char} : LeavesOpen quote (c :: cs) ↔ LeavesOpen quote cs := by
  constructor
  · rintro h front back rfl hfree
    have hopen := h (c :: front) back rfl (by rw [endsInEscape_cons hescape, hfree])
    rwa [occursFree_cons hescape, or_iff_right hline] at hopen
  · rintro h (_ | ⟨d, front⟩) back hsplit hfree
    · exact absurd (List.cons.inj hsplit).1 hquote
    · obtain ⟨rfl, rfl⟩ := List.cons.inj hsplit
      rw [endsInEscape_cons hescape] at hfree
      exact (occursFree_cons hescape).mpr (.inr (h front back rfl hfree))

theorem leavesOpen_escape {quote d : Char} (hquote : quote ≠ '\\') {cs : List Char} :
    LeavesOpen quote ('\\' :: d :: cs) ↔ LeavesOpen quote cs := by
  constructor
  · rintro h front back rfl hfree
    have hopen := h ('\\' :: d :: front) back rfl hfree
    rwa [occursFree_escape (by decide)] at hopen
  · rintro h (_ | ⟨e, _ | ⟨e', front⟩⟩) back hsplit hfree
    · exact absurd (List.cons.inj hsplit).1.symm hquote
    · obtain ⟨rfl, _⟩ := List.cons.inj hsplit
      cases hfree
    · cases hsplit
      exact (occursFree_escape (by decide)).mpr (h front back rfl hfree)

theorem literalLength_eq_none_iff {quote : Char} (hquote : quote ≠ '\\') {cs : List Char} :
    literalLength quote cs = none ↔ LeavesOpen quote cs := by
  fun_induction literalLength quote cs with
  | case1 c cs ih => rw [Option.map_eq_none_iff, ih, leavesOpen_escape hquote]
  | case2 cs =>
    refine iff_of_false (by simp) fun h ↦ ?_
    obtain ⟨front, back, hnil, _⟩ := h [] cs rfl rfl
    exact absurd hnil (by simp)
  | case3 cs hescape hclose =>
    refine iff_of_true rfl fun front back hsplit hfree ↦ ?_
    cases front with
    | nil => exact absurd (List.cons.inj hsplit).1 hclose
    | cons d front =>
      obtain ⟨rfl, _⟩ := List.cons.inj hsplit
      exact (occursFree_cons (by decide)).mpr (.inl rfl)
  | case4 c cs hescape hclose hline ih =>
    rw [Option.map_eq_none_iff, ih]
    by_cases hc : c = '\\'
    · -- A backslash without a character after it stands at the end of the text.
      have hnil : cs = [] := by
        cases cs with
        | nil => rfl
        | cons d ds => exact absurd rfl (hescape d ds hc)
      rw [hnil]
      refine iff_of_true leavesOpen_nil ?_
      rintro (_ | ⟨d, front⟩) back hsplit _
      · exact absurd (List.cons.inj hsplit).1 hclose
      · exact absurd (List.cons.inj hsplit).2 (by simp)
    · rw [leavesOpen_cons hclose hc hline]
  | case5 => exact iff_of_true rfl leavesOpen_nil

/-- An open literal stays open at the end of the line. -/
theorem LeavesOpen.append_feed {quote : Char} {cs : List Char} (h : LeavesOpen quote cs)
    (hquote : quote ≠ '\n') (hescape : endsInEscape cs = false) (rest : List Char) :
    LeavesOpen quote (cs ++ '\n' :: rest) := by
  intro front back hsplit hfree
  rcases List.append_eq_append_iff.mp hsplit with ⟨between, rfl, hrest⟩ | ⟨between, rfl, hrest⟩
  · cases between with
    | nil => exact absurd (List.cons.inj hrest).1.symm hquote
    | cons c between =>
      obtain ⟨rfl, _⟩ := List.cons.inj hrest
      exact ⟨cs, between, rfl, hescape⟩
  · cases between with
    | nil => exact absurd (List.cons.inj hrest).1 hquote
    | cons c between =>
      obtain ⟨rfl, _⟩ := List.cons.inj hrest
      exact h front between rfl hfree

/-! ## Faults -/

/-- What the text begins with is not closed in it. -/
def LexFault.Begins : LexFault → List Char → Prop
  | unterminatedLiteral, cs =>
    ∃ quote body, cs = quote :: body ∧ (quote = '"' ∨ quote = '\'') ∧ LeavesOpen quote body
  | unterminatedComment, cs => ∃ body, cs = '/' :: '*' :: body ∧ ¬ ClosesComment body

theorem pieceAt_eq_error_iff {lineStart : Bool} {c : Char} {cs : List Char} {fault : LexFault} :
    pieceAt lineStart c cs = .error fault ↔ fault.Begins (c :: cs) := by
  constructor
  · intro h
    unfold pieceAt at h
    repeat' split at h
    all_goals cases h
    · next hblock _ hnone =>
      obtain ⟨rfl, hhead⟩ := hblock
      obtain ⟨body, rfl⟩ := List.head?_eq_some_iff.mp hhead
      exact ⟨body, rfl, commentLength_eq_none_iff.mp hnone⟩
    · next hquote _ hnone =>
      have hescape : c ≠ '\\' := by rcases hquote with rfl | rfl <;> decide
      exact ⟨c, cs, rfl, hquote, (literalLength_eq_none_iff hescape).mp hnone⟩
  · intro h
    cases fault with
    | unterminatedLiteral =>
      obtain ⟨quote, body, heq, hquote, hopen⟩ := h
      cases heq
      have hother : c ≠ '\\' ∧ c ≠ '/' ∧ c ≠ '#' ∧ isSpace c = false := by
        rcases hquote with rfl | rfl <;> decide
      have hnone := (literalLength_eq_none_iff hother.1).mpr hopen
      simp [pieceAt, hother, hquote, hnone]
    | unterminatedComment =>
      obtain ⟨body, heq, hopen⟩ := h
      cases heq
      have hnone := commentLength_eq_none_iff.mpr hopen
      simp [pieceAt, isSpace, hnone]

variable {s last : LexState} {cs rest : List Char} {tokens : List Token} {e : LexError}

/-- A text that cannot be read is read up to a fault. -/
theorem exists_reads_of_error (h : tokenizeFrom s cs = .error e) :
    ∃ tokens last rest, Reads s cs tokens last rest ∧ e.line = last.line ∧
      e.fault.Begins rest := by
  fun_induction tokenizeFrom s cs with
  | case1 => cases h
  | case2 s c cs fault hpiece =>
    cases h
    exact ⟨[], s, c :: cs, .nil, rfl, pieceAt_eq_error_iff.mp hpiece⟩
  | case3 s c cs piece hpiece lexeme rest hkind =>
    rename_i ih
    obtain ⟨kind, n⟩ := piece
    cases hkind
    obtain ⟨tokens, last, rest, hreads, hline, hfault⟩ := ih h
    exact ⟨tokens, last, rest, .gap hpiece hreads, hline, hfault⟩
  | case4 s c cs piece hpiece lexeme rest kind hkind =>
    rename_i ih
    obtain ⟨_, n⟩ := piece
    cases hkind
    obtain ⟨tokens, last, rest, hreads, hline, hfault⟩ := ih (map_eq_error_iff.mp h)
    exact ⟨_, last, rest, .token hpiece hreads, hline, hfault⟩

theorem LexFault.Begins.exists_cons {fault : LexFault} (h : fault.Begins cs) :
    ∃ c body, cs = c :: body := by
  cases fault with
  | unterminatedLiteral =>
    obtain ⟨quote, body, rfl, _⟩ := h
    exact ⟨quote, body, rfl⟩
  | unterminatedComment =>
    obtain ⟨body, rfl, _⟩ := h
    exact ⟨'/', '*' :: body, rfl⟩

theorem tokenizeFrom_of_fault (h : Reads s cs tokens last rest) (hline : e.line = last.line)
    (hfault : e.fault.Begins rest) : tokenizeFrom s cs = .error e := by
  obtain ⟨c, body, rfl⟩ := hfault.exists_cons
  obtain ⟨line, fault⟩ := e
  have hpiece : pieceAt last.lineStart c body = .error fault := pieceAt_eq_error_iff.mpr hfault
  have hstop : tokenizeFrom last (c :: body) = .error ⟨line, fault⟩ := by
    rw [tokenizeFrom_fault hpiece, ← hline]
  rw [tokenizeFrom_of_reads h, hstop]
  rfl

/-- A fault before a line that ends a comment is an open literal, and stays one. -/
theorem LexFault.Begins.append_line {fault : LexFault} {before after front : List Char}
    (h : fault.Begins after) (hwhole : before ++ after = front ++ [' ', '*', '/'])
    (rest : List Char) : fault.Begins (after ++ '\n' :: rest) := by
  cases fault with
  | unterminatedLiteral =>
    obtain ⟨quote, body, rfl, hquote, hopen⟩ := h
    have hlast : (quote :: body).getLast? = some '/' := by
      have hend := congrArg List.getLast? hwhole
      rw [List.getLast?_append_cons] at hend
      simpa using hend
    have hescape : endsInEscape body = false := by
      rcases List.eq_nil_or_concat' body with rfl | ⟨inner, c, rfl⟩
      · rfl
      · rw [← List.cons_append, List.getLast?_concat] at hlast
        cases hlast
        exact endsInEscape_concat (by decide) inner
    have hfeed : quote ≠ '\n' := by rcases hquote with rfl | rfl <;> decide
    exact ⟨quote, body ++ '\n' :: rest, rfl, hquote, hopen.append_feed hfeed hescape rest⟩
  | unterminatedComment =>
    obtain ⟨body, rfl, hopen⟩ := h
    refine absurd ?_ hopen
    rcases List.append_eq_append_iff.mp hwhole with ⟨inner, -, hsplit⟩ | ⟨inner, -, hsplit⟩
    · rcases inner with _ | ⟨_, _ | ⟨_, inner⟩⟩ <;> cases hsplit
      exact ⟨inner ++ [' '], [], by simp⟩
    · rcases inner with _ | ⟨_, _ | ⟨_, _ | ⟨_, inner⟩⟩⟩ <;> simp at hsplit

end ExportTable.CSource
