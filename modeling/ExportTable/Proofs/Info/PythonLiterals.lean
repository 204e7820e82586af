import ExportTable.Proofs.Info.PythonText

/-!
# Literals of the Python module

The module is read character by character, as the language reads it: a literal starts at a single
quote and ends at the next one that is not escaped, and no line ends within it. Read so, the literal
of a text without line breaks is one literal of that text, and one of any other text is a syntax
error. So the module can be read exactly if no string of the artifact holds a line break, and its
literals are then the strings of the artifact.
-/

namespace ExportTable.Info

namespace Python

/-! ## Reading -/

/-- Ends a line of the module, wherever it stands. -/
def isLineBreak (c : Char) : Bool := c = '\n' || c = '\r'

inductive Place where
  | code
  | comment
  /-- In a literal, after what is read of its value. -/
  | literal (value : List Char)
  /-- In a literal, after a backslash. -/
  | escape (value : List Char)
  deriving DecidableEq, Repr

/-- A part of a module: a character outside of comments and literals, or the value of a literal. -/
inductive Piece where
  | char (c : Char)
  | value (text : String)
  deriving DecidableEq, Repr

/-- Reads one character, unless it is a syntax error. A backslash stands before itself or a quote;
other escapes are not written and not read. -/
def step : Place → Char → Option (Place × List Piece)
  | .code, c =>
    if c = '\'' then some (.literal [], [])
    else if c = '#' then some (.comment, [])
    else some (.code, [.char c])
  | .comment, c => some (if isLineBreak c then .code else .comment, [])
  | .literal value, c =>
    if c = '\'' then some (.code, [.value (String.ofList value)])
    else if c = '\\' then some (.escape value, [])
    else if isLineBreak c then none
    else some (.literal (value ++ [c]), [])
  | .escape value, c =>
    if c = '\\' ∨ c = '\'' then some (.literal (value ++ [c]), []) else none

def run : Place → List Char → Option (Place × List Piece)
  | place, [] => some (place, [])
  | place, c :: cs =>
    (step place c).bind fun (next, front) ↦
      (run next cs).map fun (last, back) ↦ (last, front ++ back)

/-- The pieces of a text that does not end within a literal. -/
def read (text : List Char) : Option (List Piece) :=
  match run .code text with
  | some (.code, pieces) | some (.comment, pieces) => some pieces
  | _ => none

def Piece.value? : Piece → Option String
  | char _ => none
  | value text => some text

/-- The values of the literals of a text, in order. -/
def literals? (text : List Char) : Option (List String) :=
  (read text).map (·.filterMap Piece.value?)

/-! ## Runs -/

theorem run_of_step {place next : Place} {c : Char} {front : List Piece}
    (h : step place c = some (next, front)) (cs : List Char) :
    run place (c :: cs) = (run next cs).map fun (last, back) ↦ (last, front ++ back) := by
  rw [run, h, Option.bind_some]

/-- A step that ends no piece. -/
theorem run_of_silent {place next : Place} {c : Char} (h : step place c = some (next, []))
    (cs : List Char) : run place (c :: cs) = run next cs := by
  rw [run_of_step h]
  exact Option.map_id'

theorem run_of_error {place : Place} {c : Char} (h : step place c = none) (cs : List Char) :
    run place (c :: cs) = none := by
  rw [run, h, Option.bind_none]

theorem run_append (place : Place) (cs ds : List Char) :
    run place (cs ++ ds) =
      (run place cs).bind fun (next, front) ↦
        (run next ds).map fun (last, back) ↦ (last, front ++ back) := by
  induction cs generalizing place with
  | nil => exact Option.map_id'.symm
  | cons c cs ih =>
    rw [List.cons_append]
    cases hstep : step place c with
    | none => rw [run_of_error hstep, run_of_error hstep, Option.bind_none]
    | some first =>
      rw [run_of_step hstep, run_of_step hstep, ih]
      cases run first.1 cs with
      | none => rfl
      | some middle => simp [Function.comp_def]

/-! ## Literals -/

/-- A text on one line. -/
def isOneLine (s : String) : Bool := !s.toList.any isLineBreak

theorem escapeChar_of_special {c : Char} (h : c = '\\' ∨ c = '\'') : escapeChar c = ['\\', c] := by
  rcases h with rfl | rfl <;> rfl

theorem escapeChar_of_not_special {c : Char} (h : ¬ (c = '\\' ∨ c = '\'')) :
    escapeChar c = [c] := by
  unfold escapeChar
  split <;> simp_all

theorem isLineBreak_of_special {c : Char} (h : c = '\\' ∨ c = '\'') : isLineBreak c = false := by
  rcases h with rfl | rfl <;> rfl

/-- An escaped text is read up to the quote after it, and it is a syntax error if it has a line
break. -/
theorem run_literal (value cs : List Char) :
    run (.literal value) (cs.flatMap escapeChar ++ ['\'']) =
      if cs.any isLineBreak then none
      else some (.code, [.value (String.ofList (value ++ cs))]) := by
  induction cs generalizing value with
  | nil => simp [run, step]
  | cons c cs ih =>
    rw [List.flatMap_cons, List.append_assoc, List.any_cons]
    by_cases hspecial : c = '\\' ∨ c = '\''
    · have hescape : step (.literal value) '\\' = some (.escape value, []) := rfl
      have hescaped : step (.escape value) c = some (.literal (value ++ [c]), []) :=
        if_pos hspecial
      rw [escapeChar_of_special hspecial, List.cons_append, run_of_silent hescape,
        List.singleton_append, run_of_silent hescaped, ih, isLineBreak_of_special hspecial,
        Bool.false_or, List.append_assoc, List.singleton_append]
    · obtain ⟨hbackslash, hquote⟩ := not_or.mp hspecial
      rw [escapeChar_of_not_special hspecial, List.singleton_append]
      cases hbreak : isLineBreak c with
      | true =>
        have hstep : step (.literal value) c = none := by simp [step, hbackslash, hquote, hbreak]
        rw [run_of_error hstep, Bool.true_or, if_pos rfl]
      | false =>
        have hstep : step (.literal value) c = some (.literal (value ++ [c]), []) := by
          simp [step, hbackslash, hquote, hbreak]
        rw [run_of_silent hstep, ih, Bool.false_or, List.append_assoc, List.singleton_append]

/-- The literal of a text on one line is one literal of this text, that of another text is a syntax
error. -/
theorem run_code_literal (s : String) :
    run .code (literal s).toList = if isOneLine s then some (.code, [.value s]) else none := by
  have hopen : step .code '\'' = some (.literal [], []) := rfl
  rw [toList_literal, List.singleton_append, run_of_silent hopen, run_literal, isOneLine,
    List.nil_append, String.ofList_toList]
  cases s.toList.any isLineBreak <;> rfl

/-! ## Texts and their strings -/

/-- The text starts and ends outside of comments and literals, and its literals are the strings; it
is a syntax error if one of them has a line break. -/
def Holds (text : String) (strings : List String) : Prop :=
  (run .code text.toList).map (fun (place, pieces) ↦ (place, pieces.filterMap Piece.value?)) =
    if strings.all isOneLine then some (.code, strings) else none

theorem holds_literal (s : String) : Holds (literal s) [s] := by
  rw [Holds, run_code_literal, List.all_cons, List.all_nil, Bool.and_true]
  cases isOneLine s <;> rfl

theorem holds_plain {text : String} (h : ∀ c ∈ text.toList, c ≠ '\'' ∧ c ≠ '#') :
    Holds text [] := by
  rw [Holds]
  generalize text.toList = cs at h ⊢
  induction cs with
  | nil => rfl
  | cons c cs ih =>
    obtain ⟨⟨hquote, hmark⟩, hcs⟩ := List.forall_mem_cons.mp h
    have hstep : step .code c = some (.code, [.char c]) := by simp [step, hquote, hmark]
    rw [run_of_step hstep, Option.map_map, ← ih hcs]
    rfl

namespace Holds

variable {front back : String} {strings others : List String}

theorem append (hfront : Holds front strings) (hback : Holds back others) :
    Holds (front ++ back) (strings ++ others) := by
  unfold Holds at hfront hback ⊢
  rw [String.toList_append, run_append, List.all_append]
  cases hstrings : strings.all isOneLine with
  | false =>
    rw [hstrings, if_neg (by decide), Option.map_eq_none_iff] at hfront
    rw [hfront]
    rfl
  | true =>
    rw [hstrings, if_pos rfl, Option.map_eq_some_iff] at hfront
    obtain ⟨⟨place, pieces⟩, hrun, heq⟩ := hfront
    obtain ⟨rfl, rfl⟩ := Prod.mk.inj heq
    have hlater := congrArg
      (Option.map fun (place, later) ↦ (place, pieces.filterMap Piece.value? ++ later)) hback
    rw [hrun, Option.bind_some, Bool.true_and, Option.map_map]
    rw [Option.map_map] at hlater
    simpa [Function.comp_def, apply_ite] using hlater

section

variable {α : Type} {write : α → String} {strings : α → List String}

theorem join (h : ∀ a, Holds (write a) (strings a)) (l : List α) :
    Holds (String.join (l.map write)) (l.flatMap strings) := by
  induction l with
  | nil => rfl
  | cons a l ih =>
    rw [List.map_cons, String.join_cons, List.flatMap_cons]
    exact (h a).append ih

theorem intercalate (h : ∀ a, Holds (write a) (strings a)) (l : List α) :
    Holds (", ".intercalate (l.map write)) (l.flatMap strings) := by
  have hcomma : Holds ", " [] := rfl
  induction l with
  | nil => rfl
  | cons a l ih =>
    cases l with
    | nil =>
      rw [List.map_singleton, String.intercalate_singleton, List.flatMap_singleton]
      exact h a
    | cons b l =>
      have hrow := ((h a).append hcomma).append ih
      rw [List.append_nil] at hrow
      rwa [List.map_cons, List.map_cons, String.intercalate_cons_cons, List.flatMap_cons]

theorem list (h : ∀ a, Holds (write a) (strings a)) (l : List α) :
    Holds (list (l.map write)) (l.flatMap strings) := by
  have hopen : Holds "[" [] := rfl
  have hclose : Holds "]" [] := rfl
  have hlist := (hopen.append (intercalate h l)).append hclose
  rwa [List.nil_append, List.append_nil] at hlist

end

end Holds

theorem holds_bool (b : Bool) : Holds (bool b) [] := by
  cases b <;> rfl

theorem holds_number (n : Nat) : Holds (toString n) [] := by
  refine holds_plain fun c hc ↦ ?_
  have hdigit := Interface.isDigit_of_mem_toString hc
  constructor <;> rintro rfl <;> revert hdigit <;> decide

theorem holds_rows (types : List (List String)) : Holds (rows types) types.flatten := by
  have hrow (row : List String) : Holds (list (row.map literal)) row := by
    have hitems := Holds.list holds_literal row
    rwa [List.flatMap_singleton'] at hitems
  have hrows := Holds.list hrow types
  rwa [List.flatMap_id'] at hrows

/-- The strings of an entry, those of the keys among them. -/
def entryStrings (name : String) (o : Operation) : List String :=
  [name, "elementwise", "id", "name", o.name, "nop", "type_sig"] ++ o.rows.flatten

theorem holds_entry (name : String) (o : Operation) :
    Holds (entry name o) (entryStrings name o) := by
  have hindent : Holds "  " [] := rfl
  have helementwise : Holds ": \x7b'elementwise': " ["elementwise"] := rfl
  have hid : Holds ", 'id': " ["id"] := rfl
  have hname : Holds ", 'name': " ["name"] := rfl
  have hoperands : Holds ", 'nop': " ["nop"] := rfl
  have hrows : Holds ", 'type_sig': " ["type_sig"] := rfl
  have hend : Holds "\x7d,\n" [] := rfl
  have hentry :=
    hindent.append (holds_literal name) |>.append helementwise |>.append (holds_bool o.elementwise)
      |>.append hid |>.append (holds_number o.id) |>.append hname |>.append (holds_literal o.name)
      |>.append hoperands |>.append (holds_number o.operands) |>.append hrows
      |>.append (holds_rows o.rows) |>.append hend
  rwa [List.append_nil] at hentry

end Python

/-! ## The module -/

/-- The strings of the artifact as they follow each other in its module. -/
def pythonStrings (info : Info) : List String :=
  [info.version] ++
    info.operations.bindings.flatMap (fun (name, o) ↦ Python.entryStrings name o) ++ info.types

open Python in
theorem holds_pythonText (info : Info) : Holds info.pythonText info.pythonStrings := by
  have hmark : Holds "# This file is auto generated by bhapi-weld\n" [] := rfl
  have hlead : Holds "\n# Info variables:\n" [] := rfl
  have hversion : Holds "__version__ = " [] := rfl
  have hend : Holds "\n" [] := rfl
  have hopen : Holds "op = \x7b\n" [] := rfl
  have hclose : Holds "\x7d\n\n" [] := rfl
  have hhead : Holds "def numpy_types():\n" [] := rfl
  have himport : Holds "    import numpy\n" [] := rfl
  have hreturn : Holds "    return " [] := rfl
  have htype (t : String) : Holds ("numpy.dtype(" ++ literal t ++ ")") [t] :=
    have hcall : Holds "numpy.dtype(" [] := rfl
    have hcallEnd : Holds ")" [] := rfl
    (hcall.append (holds_literal t)).append hcallEnd
  have hentry (binding : String × Operation) :
      Holds (entry binding.1 binding.2) (entryStrings binding.1 binding.2) :=
    holds_entry binding.1 binding.2
  have hentries := Holds.join hentry info.operations.bindings
  have htypes := Holds.list htype info.types
  rw [List.flatMap_singleton'] at htypes
  have hmodule :=
    hmark.append hlead |>.append hversion |>.append (holds_literal info.version) |>.append hend
      |>.append hend |>.append hopen |>.append hentries |>.append hclose |>.append hhead
      |>.append himport |>.append hreturn |>.append htypes |>.append hend
  simp only [List.nil_append, List.append_nil] at hmodule
  exact hmodule

/-- The literal of a text is one literal of this text if the text stands on one line, and a syntax
error if not. So a module can be read exactly if all strings of its artifact stand on one line, and
its literals are then these strings. -/
theorem read_written_literals (s : String) (info : Info) :
    (Python.read (Python.literal s).toList =
      if Python.isOneLine s then some [.value s] else none) ∧
    Python.literals? info.pythonText.toList =
      if info.pythonStrings.all Python.isOneLine then some info.pythonStrings else none := by
  constructor
  · rw [Python.read, Python.run_code_literal]
    cases Python.isOneLine s <;> rfl
  · have hholds := info.holds_pythonText
    rw [Python.literals?, Python.read]
    unfold Python.Holds at hholds
    split at hholds
    · next hlines =>
      obtain ⟨⟨place, pieces⟩, hrun, heq⟩ := Option.map_eq_some_iff.mp hholds
      obtain ⟨rfl, hvalues⟩ := Prod.mk.inj heq
      rw [hrun, if_pos hlines]
      exact congrArg some hvalues
    · next hlines => rw [Option.map_eq_none_iff.mp hholds, if_neg hlines, Option.map_none]

/-- A version may have a line break, which stands in its literal as it is. -/
theorem literal_broken :
    ¬ ∀ s, Python.read (Python.literal s).toList = some [.value s] := by
  intro h
  have hbroken : Python.read (Python.literal "1.2\n3").toList = none := by decide +kernel
  rw [h "1.2\n3"] at hbroken
  cases hbroken

end ExportTable.Info
