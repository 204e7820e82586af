import ExportTable.Proofs.CSource.Identifiers

/-!
# Directives

A directive goes on over a line feed exactly if a backslash stands right before it. A text whose line
feeds are all of this kind belongs to one directive, and the directive ends after it unless a
backslash stands at its end.
-/

namespace ExportTable.CSource

/-- A directive goes on over every line feed. -/
inductive Continued : List Char → Prop
  | nil : Continued []
  | cons {c : Char} {cs : List Char} (hc : c ≠ '\n') (h : Continued cs) : Continued (c :: cs)
  | feed {cs : List Char} (h : Continued cs) : Continued ('\\' :: '\n' :: cs)
  | returnFeed {cs : List Char} (h : Continued cs) : Continued ('\\' :: '\r' :: '\n' :: cs)

namespace Continued

variable {cs : List Char}

theorem of_not_mem (h : '\n' ∉ cs) : Continued cs := by
  induction cs with
  | nil => exact .nil
  | cons c cs ih =>
    obtain ⟨hc, hcs⟩ := not_or.mp (mt List.mem_cons.mpr h)
    exact .cons (Ne.symm hc) (ih hcs)

theorem append {front back : List Char} (hfront : Continued front) (hback : Continued back) :
    Continued (front ++ back) := by
  induction hfront with
  | nil => exact hback
  | cons hc _ ih => exact .cons hc ih
  | feed _ ih => exact .feed ih
  | returnFeed _ ih => exact .returnFeed ih

theorem not_feed_cons : ¬ Continued ('\n' :: cs) := by
  intro h
  cases h with
  | cons hc _ => exact hc rfl

/-- The backslash that the last characters end in takes the line feed. -/
theorem append_feed (h : Continued cs) (hend : EndsInBackslash cs) : Continued (cs ++ ['\n']) := by
  induction h with
  | nil => exact absurd hend (by decide)
  | @cons c cs hc hcs ih =>
    rcases endsInBackslash_cons.mp hend with ⟨rfl, rfl | rfl⟩ | hlast
    · exact .feed .nil
    · exact .returnFeed .nil
    · exact .cons hc (ih hlast)
  | @feed cs hcs ih =>
    rcases endsInBackslash_cons.mp hend with ⟨_, h | h⟩ | hlast
    · cases h
    · cases h
    · rcases endsInBackslash_cons.mp hlast with ⟨h, _⟩ | hlast
      · cases h
      · exact .feed (ih hlast)
  | @returnFeed cs hcs ih =>
    rcases endsInBackslash_cons.mp hend with ⟨_, h | h⟩ | hlast
    · cases h
    · cases h
    · rcases endsInBackslash_cons.mp hlast with ⟨h, _⟩ | hlast
      · cases h
      · rcases endsInBackslash_cons.mp hlast with ⟨h, _⟩ | hlast
        · cases h
        · exact .returnFeed (ih hlast)

theorem directiveLength_eq (h : Continued cs) : directiveLength cs = cs.length := by
  induction h with
  | nil => rfl
  | @cons c cs hc hcs ih =>
    have hfeed : ∀ tail, c = '\\' → cs = '\n' :: tail → False := by
      rintro tail _ rfl
      exact not_feed_cons hcs
    have hreturn : ∀ tail, c = '\\' → cs = '\r' :: '\n' :: tail → False := by
      rintro tail _ rfl
      cases hcs with
      | cons _ htail => exact not_feed_cons htail
    rw [directiveLength.eq_4 _ _ hfeed hreturn hc, ih, List.length_cons]
  | feed _ ih => simp [directiveLength, ih]
  | returnFeed _ ih => simp [directiveLength, ih]

theorem of_directiveLength (h : directiveLength cs = cs.length) : Continued cs := by
  fun_induction directiveLength cs with
  | case1 cs ih => exact .feed (ih (by simpa using h))
  | case2 cs ih => exact .returnFeed (ih (by simpa using h))
  | case3 => cases h
  | case4 c cs _ _ hline ih => exact .cons hline (ih (by simpa using h))
  | case5 => exact .nil

/-- The directive ends at the line feed. -/
theorem directiveLength_append_feed (h : Continued cs) (hend : ¬ EndsInBackslash cs)
    (rest : List Char) : directiveLength (cs ++ '\n' :: rest) = cs.length := by
  rcases (CSource.directiveLength_append_feed cs rest).2 with hsame | ⟨_, hback⟩
  · rw [hsame, h.directiveLength_eq]
  · exact absurd hback hend

/-- The directive ends at the end of the text or at the line feed. -/
theorem directiveLength_append (h : Continued cs) {rest : List Char}
    (hnext : ∀ c ∈ rest.head?, c = '\n' ∧ ¬ EndsInBackslash cs) :
    directiveLength (cs ++ rest) = cs.length := by
  cases rest with
  | nil => rw [List.append_nil, h.directiveLength_eq]
  | cons c tail =>
    obtain ⟨rfl, hend⟩ := hnext c rfl
    exact h.directiveLength_append_feed hend tail

end Continued

/-- What ends a text is decided after any character that is neither a backslash nor a return. -/
theorem endsInBackslash_append_cons {c : Char} (hbackslash : c ≠ '\\') (hreturn : c ≠ '\r')
    {front back : List Char} : EndsInBackslash (front ++ c :: back) ↔ EndsInBackslash back := by
  induction front with
  | nil => simp [endsInBackslash_cons, hbackslash]
  | cons d front ih =>
    have hlonger : front ++ c :: back ≠ ['\r'] := by
      cases front <;> simp [hreturn]
    rw [List.cons_append, endsInBackslash_cons, ih]
    simp [hlonger]

theorem not_endsInBackslash_concat {c : Char} (hbackslash : c ≠ '\\') (hreturn : c ≠ '\r')
    (cs : List Char) : ¬ EndsInBackslash (cs ++ [c]) := by
  rw [endsInBackslash_append_cons hbackslash hreturn]
  decide

theorem EndsInBackslash.mem {cs : List Char} (h : EndsInBackslash cs) : '\\' ∈ cs := by
  rcases h with h | h
  · exact h.subset (by decide)
  · exact h.subset (by decide)

/-- A line feed that the directive goes on over is followed by one that ends it. -/
theorem directiveLength_append_feeds {cs : List Char} (h : directiveLength cs = cs.length)
    (hend : EndsInBackslash cs) (rest : List Char) :
    directiveLength (cs ++ '\n' :: '\n' :: rest) = cs.length + 1 := by
  have hfeed := (Continued.of_directiveLength h).append_feed hend
  have hstop := not_endsInBackslash_concat (c := '\n') (by decide) (by decide) cs
  simpa using hfeed.directiveLength_append_feed hstop rest

/-- Every line feed in the text has a backslash before it, perhaps with a carriage return between. -/
theorem continued_iff {cs : List Char} :
    Continued cs ↔ ∀ front back, cs = front ++ '\n' :: back → EndsInBackslash front := by
  constructor
  · intro h
    induction h with
    | nil => simp
    | cons hc _ ih =>
      rintro (_ | ⟨d, front⟩) back hsplit
      · exact absurd (List.cons.inj hsplit).1 hc
      · obtain ⟨_, rfl⟩ := List.cons.inj hsplit
        exact (ih front back rfl).of_suffix (List.suffix_cons d front)
    | feed _ ih =>
      rintro (_ | ⟨d, _ | ⟨e, front⟩⟩) back hsplit <;> cases hsplit
      · decide
      · exact (ih front back rfl).of_suffix ⟨['\\', '\n'], rfl⟩
    | returnFeed _ ih =>
      rintro (_ | ⟨d, _ | ⟨e, _ | ⟨e', front⟩⟩⟩) back hsplit <;> cases hsplit
      · decide
      · exact (ih front back rfl).of_suffix ⟨['\\', '\r', '\n'], rfl⟩
  · intro h
    fun_induction directiveLength cs with
    | case1 cs ih =>
      refine .feed (ih fun front back hsplit ↦ ?_)
      have hend : EndsInBackslash (['\\'] ++ '\n' :: front) :=
        h ('\\' :: '\n' :: front) back (by rw [hsplit]; rfl)
      rwa [endsInBackslash_append_cons (by decide) (by decide)] at hend
    | case2 cs ih =>
      refine .returnFeed (ih fun front back hsplit ↦ ?_)
      have hend : EndsInBackslash (['\\', '\r'] ++ '\n' :: front) :=
        h ('\\' :: '\r' :: '\n' :: front) back (by rw [hsplit]; rfl)
      rwa [endsInBackslash_append_cons (by decide) (by decide)] at hend
    | case3 cs => exact absurd (h [] cs rfl) (by decide)
    | case4 c cs hfeed hreturn hline ih =>
      refine .cons hline (ih fun front back hsplit ↦ ?_)
      rcases endsInBackslash_cons.mp (h (c :: front) back (by rw [hsplit]; rfl)) with
        ⟨hc, rfl | rfl⟩ | hend
      · exact absurd hsplit fun hcs ↦ hfeed back hc hcs
      · exact absurd hsplit fun hcs ↦ hreturn back hc hcs
      · exact hend
    | case5 => exact .nil

/-- A directive takes all up to the first line feed that it does not go on over. -/
theorem exists_append_directiveLength (cs : List Char) :
    ∃ front back, cs = front ++ back ∧ front.length = directiveLength cs ∧ Continued front ∧
      ∀ c ∈ back.head?, c = '\n' ∧ ¬ EndsInBackslash front := by
  fun_induction directiveLength cs with
  | case1 cs ih =>
    obtain ⟨front, back, rfl, hlength, hfront, hnext⟩ := ih
    refine ⟨'\\' :: '\n' :: front, back, rfl, by simp [hlength], .feed hfront, fun c hc ↦ ?_⟩
    have hend : EndsInBackslash (['\\'] ++ '\n' :: front) ↔ EndsInBackslash front :=
      endsInBackslash_append_cons (by decide) (by decide)
    exact ⟨(hnext c hc).1, hend.not.mpr (hnext c hc).2⟩
  | case2 cs ih =>
    obtain ⟨front, back, rfl, hlength, hfront, hnext⟩ := ih
    refine ⟨'\\' :: '\r' :: '\n' :: front, back, rfl, by simp [hlength], .returnFeed hfront,
      fun c hc ↦ ?_⟩
    have hend : EndsInBackslash (['\\', '\r'] ++ '\n' :: front) ↔ EndsInBackslash front :=
      endsInBackslash_append_cons (by decide) (by decide)
    exact ⟨(hnext c hc).1, hend.not.mpr (hnext c hc).2⟩
  | case3 cs =>
    refine ⟨[], '\n' :: cs, rfl, rfl, .nil, fun c hc ↦ ?_⟩
    cases hc
    exact ⟨rfl, by decide⟩
  | case4 c cs hfeed hreturn hline ih =>
    obtain ⟨front, back, rfl, hlength, hfront, hnext⟩ := ih
    refine ⟨c :: front, back, rfl, by simp [hlength], .cons hline hfront, fun d hd ↦ ?_⟩
    obtain ⟨rfl, hend⟩ := hnext d hd
    obtain ⟨tail, rfl⟩ := List.head?_eq_some_iff.mp hd
    refine ⟨rfl, fun hmore ↦ ?_⟩
    rcases endsInBackslash_cons.mp hmore with ⟨hc, rfl | rfl⟩ | hlast
    · exact hfeed tail hc rfl
    · exact hreturn tail hc rfl
    · exact hend hlast
  | case5 => exact ⟨[], [], rfl, rfl, .nil, by simp⟩

/-- A directive that takes the text takes what it would take of the rest alone. -/
theorem Continued.drop_directiveLength {c : Char} (hbackslash : c ≠ '\\') (hreturn : c ≠ '\r')
    {front : List Char} (h : Continued (front ++ [c])) (rest : List Char) :
    (front ++ c :: rest).drop (directiveLength (front ++ c :: rest)) =
      rest.drop (directiveLength rest) := by
  obtain ⟨inner, back, hsplit, hlength, hinner, hnext⟩ := exists_append_directiveLength rest
  have hlonger : directiveLength (front ++ [c] ++ inner ++ back) =
      (front ++ [c] ++ inner).length := by
    refine (h.append hinner).directiveLength_append fun d hd ↦ ⟨(hnext d hd).1, ?_⟩
    rw [List.append_assoc, List.singleton_append, endsInBackslash_append_cons hbackslash hreturn]
    exact (hnext d hd).2
  have hwhole : front ++ c :: rest = front ++ [c] ++ inner ++ back := by simp [hsplit]
  rw [hwhole, hlonger, List.drop_left, ← hlength, hsplit, List.drop_left]

/-! ## Lexemes -/

theorem continued_of_literalLength {quote : Char} (hquote : quote ≠ '\n') {cs : List Char}
    (h : literalLength quote cs = some cs.length) : Continued cs := by
  fun_induction literalLength quote cs with
  | case1 c cs ih =>
    have hrest := ih (by simpa using h)
    by_cases hc : c = '\n'
    · rw [hc]
      exact .feed hrest
    · exact .cons (by decide) (.cons hc hrest)
  | case2 cs =>
    have hnil : cs = [] := by simpa using h
    rw [hnil]
    exact .cons hquote .nil
  | case3 => cases h
  | case4 c cs _ _ hline ih => exact .cons hline (ih (by simpa using h))
  | case5 => cases h

theorem IsLexeme.continued {kind : TokenKind} {lexeme : List Char} (h : IsLexeme kind lexeme) :
    Continued lexeme := by
  have hall {p : Char → Bool} (hp : p '\n' = false) {c : Char} (hc : p c) : c ≠ '\n' :=
    ne_of_apply hc hp
  cases h with
  | identifier hfirst hrest =>
    refine .cons (hall (by decide) hfirst) (.of_not_mem fun hmem ↦ ?_)
    exact hall (by decide) (List.all_eq_true.mp hrest _ hmem) rfl
  | number hfirst hrest =>
    refine .cons (hall (by decide) hfirst) (.of_not_mem fun hmem ↦ ?_)
    exact hall (by decide) (List.all_eq_true.mp hrest _ hmem) rfl
  | @literal c cs hquote hclosed =>
    have hne : c ≠ '\n' := by
      rcases hquote with rfl | rfl <;> decide
    exact .cons hne (continued_of_literalLength hne hclosed)
  | @punctuation c hspace =>
    refine .cons ?_ .nil
    rintro rfl
    exact absurd hspace (by decide)

theorem getLast?_of_literalLength {quote : Char} {cs : List Char}
    (h : literalLength quote cs = some cs.length) : cs.getLast? = some quote := by
  fun_induction literalLength quote cs with
  | case1 c cs ih => simp [List.getLast?_cons, ih (by simpa using h)]
  | case2 cs =>
    have hnil : cs = [] := by simpa using h
    simp [hnil]
  | case3 => cases h
  | case4 c cs _ _ _ ih => simp [List.getLast?_cons, ih (by simpa using h)]
  | case5 => cases h

/-- A token ends on the line of its last character. -/
theorem IsLexeme.exists_concat {kind : TokenKind} {lexeme : List Char} (h : IsLexeme kind lexeme) :
    ∃ front c, lexeme = front ++ [c] ∧ c ≠ '\n' := by
  have hall {p : Char → Bool} (hp : p '\n' = false) {c : Char} {cs : List Char}
      (h : (c :: cs).all p) : ∃ front d, c :: cs = front ++ [d] ∧ d ≠ '\n' := by
    refine ⟨_, _, (List.dropLast_concat_getLast (List.cons_ne_nil c cs)).symm, ?_⟩
    exact ne_of_apply (List.all_eq_true.mp h _ (List.getLast_mem _)) hp
  cases h with
  | @identifier c cs hfirst hrest =>
    have hlexeme : (c :: cs).all continuesIdentifier := by
      rw [List.all_cons, hrest, continuesIdentifier_of_startsIdentifier hfirst]
      rfl
    exact hall (by decide) hlexeme
  | @number c cs hfirst hrest =>
    have hlexeme : (c :: cs).all continuesNumber := by
      simp [continuesNumber, Char.isAlphanum, hfirst, hrest]
    exact hall (by decide) hlexeme
  | @literal c cs hquote hclosed =>
    obtain ⟨front, rfl⟩ := List.getLast?_eq_some_iff.mp (getLast?_of_literalLength hclosed)
    exact ⟨c :: front, c, rfl, by rcases hquote with rfl | rfl <;> decide⟩
  | @punctuation c hspace =>
    refine ⟨[], c, rfl, ?_⟩
    rintro rfl
    exact absurd hspace (by decide)

/-! ## Splitting a text into directives -/

/-- The directives of a text that holds nothing else but ends of lines. -/
def directives : List Char → List (List Char)
  | [] => []
  | c :: cs =>
    if c = '\n' then directives cs
    else (c :: cs.take (directiveLength cs)) :: directives (cs.drop (directiveLength cs))
termination_by cs => cs.length
decreasing_by all_goals simp only [List.length_drop, List.length_cons]; omega

/-- The text of one directive, which the next line feed ends. -/
structure IsDirective (text : List Char) : Prop where
  mark : text.head? = some '#'
  continued : Continued text
  ends : ¬ EndsInBackslash text

theorem isDirective_of_not_mem {text : List Char} (hmark : text.head? = some '#')
    (hline : '\n' ∉ text) (hback : '\\' ∉ text) : IsDirective text :=
  ⟨hmark, .of_not_mem hline, mt EndsInBackslash.mem hback⟩

theorem IsDirective.body {body : List Char} (h : IsDirective ('#' :: body)) :
    Continued body ∧ ¬ EndsInBackslash body := by
  refine ⟨?_, fun hend ↦ h.ends (endsInBackslash_cons.mpr (.inr hend))⟩
  cases h.continued with
  | cons _ hbody => exact hbody

theorem IsDirective.directiveLength_eq {body : List Char} (h : IsDirective ('#' :: body))
    (rest : List Char) : directiveLength (body ++ '\n' :: rest) = body.length :=
  h.body.1.directiveLength_append_feed h.body.2 rest

theorem directives_feed (rest : List Char) : directives ('\n' :: rest) = directives rest := by
  rw [directives, if_pos rfl]

/-- The first line of a text, whatever it begins with. -/
theorem directives_line {c : Char} {body : List Char} (hc : c ≠ '\n') (hbody : Continued body)
    (hend : ¬ EndsInBackslash body) (rest : List Char) :
    directives (c :: body ++ '\n' :: rest) = (c :: body) :: directives rest := by
  rw [List.cons_append, directives, if_neg hc, hbody.directiveLength_append_feed hend,
    List.take_left, List.drop_left, directives_feed]

theorem directives_cons {text : List Char} (h : IsDirective text) (rest : List Char) :
    directives (text ++ '\n' :: rest) = text :: directives rest := by
  obtain ⟨body, rfl⟩ := List.head?_eq_some_iff.mp h.mark
  exact directives_line (by decide) h.body.1 h.body.2 rest

theorem directives_lines_append {texts : List (List Char)} (h : ∀ text ∈ texts, IsDirective text)
    (rest : List Char) :
    directives (texts.flatMap (· ++ ['\n']) ++ rest) = texts ++ directives rest := by
  induction texts with
  | nil => rfl
  | cons text later ih =>
    obtain ⟨htext, hlater⟩ := List.forall_mem_cons.mp h
    rw [List.flatMap_cons, List.append_assoc, List.append_assoc, List.singleton_append,
      directives_cons htext, ih hlater, List.cons_append]

theorem directives_lines {texts : List (List Char)} (h : ∀ text ∈ texts, IsDirective text) :
    directives (texts.flatMap (· ++ ['\n'])) = texts := by
  have hall := directives_lines_append h []
  rwa [directives, List.append_nil, List.append_nil] at hall

end ExportTable.CSource
