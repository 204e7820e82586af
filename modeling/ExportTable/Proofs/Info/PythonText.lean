import ExportTable.Info.Python
import ExportTable.Proofs.Interface.Macros

/-!
# The Python module determines the artifact

Each piece of the module ends where its own text says, whatever follows it: a literal at the first
quote that is not escaped, a number before the comma, a list at its bracket, and the entries of the
dictionary at the first brace that starts a line. So the module can be taken apart from the front,
and no string in it passes for the text around it.
-/

namespace ExportTable.Info

/-! ## Codes that end by themselves -/

/-- What is written for a value can be told from all that may follow it. -/
def IsPrefixCode (write : α → List β) : Prop :=
  ∀ ⦃a b : α⦄ ⦃s t : List β⦄, write a ++ s = write b ++ t → a = b ∧ s = t

namespace IsPrefixCode

variable {write : α → List β}

theorem prepend (h : IsPrefixCode write) (lead : List β) : IsPrefixCode (lead ++ write ·) := by
  intro a b s t heq
  rw [List.append_assoc, List.append_assoc] at heq
  exact h (List.append_cancel_left heq)

/-- A row of values ends where something is written that starts no value. -/
theorem flatMap_inj (h : IsPrefixCode write) {stop : List β}
    (hstop : ∀ a s t, write a ++ s ≠ stop ++ t) {l m : List α} {s t : List β}
    (heq : l.flatMap write ++ (stop ++ s) = m.flatMap write ++ (stop ++ t)) : l = m ∧ s = t := by
  induction l generalizing m with
  | nil =>
    cases m with
    | nil => exact ⟨rfl, List.append_cancel_left heq⟩
    | cons b m =>
      -- A value cannot start where the other row stops.
      rw [List.flatMap_cons, List.append_assoc] at heq
      exact absurd heq.symm (hstop b _ s)
  | cons a l ih =>
    cases m with
    | nil =>
      rw [List.flatMap_cons, List.append_assoc] at heq
      exact absurd heq (hstop a _ t)
    | cons b m =>
      rw [List.flatMap_cons, List.flatMap_cons, List.append_assoc, List.append_assoc] at heq
      obtain ⟨rfl, hrow⟩ := h heq
      obtain ⟨rfl, hrest⟩ := ih hrow
      exact ⟨rfl, hrest⟩

end IsPrefixCode

namespace Python

/-! ## Literals -/

/-- The backslash is escaped first, so that those of the escaped quotes are not escaped again. -/
theorem flatMap_escapeChar (cs : List Char) :
    cs.flatMap escapeChar =
      (cs.flatMap fun c ↦ if c = '\\' then ['\\', '\\'] else [c]).flatMap
        fun c ↦ if c = '\'' then ['\\', '\''] else [c] := by
  rw [List.flatMap_assoc]
  congr 1
  funext c
  unfold escapeChar
  split <;> simp_all

theorem escapeChar_cases (c : Char) :
    escapeChar c = ['\\', c] ∨ escapeChar c = [c] ∧ c ≠ '\\' ∧ c ≠ '\'' := by
  unfold escapeChar
  split
  · exact .inl rfl
  · exact .inl rfl
  · next hbackslash hquote => exact .inr ⟨rfl, hbackslash, hquote⟩

theorem isPrefixCode_escapeChar : IsPrefixCode escapeChar := by
  intro a b s t h
  rcases escapeChar_cases a with ha | ⟨ha, hbackslash, _⟩ <;>
    rcases escapeChar_cases b with hb | ⟨hb, hbackslash', _⟩ <;> rw [ha, hb] at h
  · simpa using h
  · exact absurd (List.head_eq_of_cons_eq h).symm hbackslash'
  · exact absurd (List.head_eq_of_cons_eq h) hbackslash
  · simpa using h

/-- An escaped character never starts with a quote. -/
theorem escapeChar_append_ne (c : Char) (s t : List Char) : escapeChar c ++ s ≠ ['\''] ++ t := by
  intro h
  rcases escapeChar_cases c with hc | ⟨hc, _, hquote⟩ <;> rw [hc] at h
  · exact absurd (List.head_eq_of_cons_eq h) (by decide)
  · exact hquote (List.head_eq_of_cons_eq h)

theorem toList_literal (s : String) :
    (literal s).toList = ['\''] ++ (s.toList.flatMap escapeChar ++ ['\'']) := by
  simp [literal]

theorem isPrefixCode_literal : IsPrefixCode fun s ↦ (literal s).toList := by
  intro s other rest rest' h
  simp only [toList_literal, List.append_assoc] at h
  obtain ⟨hchars, hrest⟩ :=
    isPrefixCode_escapeChar.flatMap_inj escapeChar_append_ne (List.append_cancel_left h)
  exact ⟨String.toList_inj.mp hchars, hrest⟩

/-! ## Booleans and numbers -/

theorem isPrefixCode_bool : IsPrefixCode fun b ↦ (bool b).toList := by
  have htrue : (bool true).toList = ['T', 'r', 'u', 'e'] := rfl
  have hfalse : (bool false).toList = ['F', 'a', 'l', 's', 'e'] := rfl
  intro a b s t h
  cases a <;> cases b <;> simp_all

theorem takeWhile_isDigit_append (n : Nat) {rest : List Char}
    (h : rest.head?.any Char.isDigit = false) :
    ((toString n).toList ++ rest).takeWhile Char.isDigit = Nat.toDigits 10 n := by
  have hrest : rest.takeWhile Char.isDigit = [] := by
    cases rest with
    | nil => rfl
    | cons c cs => exact List.takeWhile_cons_of_neg (by simpa using h)
  rw [List.takeWhile_append_of_pos fun c hc ↦ Interface.isDigit_of_mem_toString hc, hrest,
    List.append_nil, Interface.toList_toString_nat]

/-- A number is told from a text after it that starts with no digit. -/
theorem toString_append_inj {n m : Nat} {s t : List Char} (hs : s.head?.any Char.isDigit = false)
    (ht : t.head?.any Char.isDigit = false)
    (h : (toString n).toList ++ s = (toString m).toList ++ t) : n = m ∧ s = t := by
  have hdigits : Nat.toDigits 10 n = Nat.toDigits 10 m := by
    rw [← takeWhile_isDigit_append n hs, h, takeWhile_isDigit_append m ht]
  obtain rfl : n = m := by
    rw [← Nat.ofDigitChars_ten_toDigits (n := n), hdigits, Nat.ofDigitChars_ten_toDigits]
  exact ⟨rfl, List.append_cancel_left h⟩

/-! ## Lists -/

theorem intercalate_cons (sep first : List α) (rest : List (List α)) :
    sep.intercalate (first :: rest) = first ++ rest.flatMap (sep ++ ·) := by
  induction rest generalizing first with
  | nil => simp
  | cons second later ih =>
    rw [List.intercalate_cons_cons, ih, List.flatMap_cons, List.append_assoc, List.append_assoc]

/-- A list ends at the bracket that no item starts with. -/
theorem isPrefixCode_list {write : α → String} (h : IsPrefixCode fun a ↦ (write a).toList)
    (hclose : ∀ a s t, (write a).toList ++ s ≠ [']'] ++ t) :
    IsPrefixCode fun l : List α ↦ (list (l.map write)).toList := by
  have hlater := h.prepend ", ".toList
  have hseparator (a : α) (s t : List Char) :
      ", ".toList ++ (write a).toList ++ s ≠ [']'] ++ t := by
    simp
  have hnil (rest : List Char) : (list (([] : List α).map write)).toList ++ rest =
      "[".toList ++ ([']'] ++ rest) := by
    simp [list]
  have hcons (a : α) (l : List α) (rest : List Char) : (list ((a :: l).map write)).toList ++ rest =
      "[".toList ++ ((write a).toList ++
        (l.flatMap (fun b ↦ ", ".toList ++ (write b).toList) ++ ([']'] ++ rest))) := by
    simp [list, String.toList_intercalate, intercalate_cons, List.flatMap_map]
  intro l m s t heq
  cases l with
  | nil =>
    cases m with
    | nil => exact ⟨rfl, List.append_cancel_left heq⟩
    | cons b m =>
      rw [hnil, hcons] at heq
      exact absurd (List.append_cancel_left heq).symm (hclose b _ s)
  | cons a l =>
    cases m with
    | nil =>
      rw [hnil, hcons] at heq
      exact absurd (List.append_cancel_left heq) (hclose a _ t)
    | cons b m =>
      rw [hcons, hcons] at heq
      obtain ⟨rfl, hrow⟩ := h (List.append_cancel_left heq)
      obtain ⟨rfl, hrest⟩ := hlater.flatMap_inj hseparator hrow
      exact ⟨rfl, hrest⟩

theorem isPrefixCode_rows : IsPrefixCode fun l : List (List String) ↦ (rows l).toList :=
  isPrefixCode_list (isPrefixCode_list isPrefixCode_literal fun s _ _ ↦ by simp [toList_literal])
    fun row _ _ ↦ by simp [list]

/-! ## The dictionary -/

theorem isPrefixCode_entry :
    IsPrefixCode fun binding : String × Operation ↦ (entry binding.1 binding.2).toList := by
  rintro ⟨name, o⟩ ⟨other, p⟩ s t h
  unfold entry at h
  simp only [String.toList_append, List.append_assoc] at h
  obtain ⟨hkey, h⟩ := isPrefixCode_literal (List.append_cancel_left h)
  obtain ⟨helementwise, h⟩ := isPrefixCode_bool (List.append_cancel_left h)
  obtain ⟨hid, h⟩ := toString_append_inj rfl rfl (List.append_cancel_left h)
  obtain ⟨hname, h⟩ := isPrefixCode_literal (List.append_cancel_left h)
  obtain ⟨hoperands, h⟩ := toString_append_inj rfl rfl (List.append_cancel_left h)
  obtain ⟨hrows, h⟩ := isPrefixCode_rows (List.append_cancel_left h)
  have ho : o = p := by
    cases o
    cases p
    simp_all
  exact ⟨Prod.ext hkey ho, List.append_cancel_left h⟩

/-- An entry is indented, the brace that closes the dictionary is not. -/
theorem entry_append_ne (binding : String × Operation) (s t : List Char) :
    (entry binding.1 binding.2).toList ++ s ≠ "\x7d\n\n".toList ++ t := by
  unfold entry
  simp

theorem isPrefixCode_types : IsPrefixCode fun types : List String ↦
    (list (types.map fun t ↦ "numpy.dtype(" ++ literal t ++ ")")).toList := by
  refine isPrefixCode_list (fun t u rest rest' h ↦ ?_) fun t _ _ ↦ by simp
  simp only [String.toList_append, List.append_assoc] at h
  obtain ⟨ht, h⟩ := isPrefixCode_literal (List.append_cancel_left h)
  exact ⟨ht, List.append_cancel_left h⟩

end Python

/-! ## The module -/

theorem toList_join_entry (bindings : List (String × Operation)) :
    (String.join (bindings.map fun (name, o) ↦ Python.entry name o)).toList =
      bindings.flatMap fun binding ↦ (Python.entry binding.1 binding.2).toList := by
  simp [String.toList_join, List.flatMap_map]

/-- Different artifacts have different modules. -/
theorem pythonText_inj {info other : Info} : info.pythonText = other.pythonText ↔ info = other := by
  refine ⟨fun h ↦ ?_, congrArg pythonText⟩
  replace h := congrArg String.toList h
  unfold pythonText at h
  simp only [String.toList_append, List.append_assoc, toList_join_entry] at h
  -- Fixed lines stand before the version, the entries and the types.
  replace h := List.append_cancel_left (List.append_cancel_left (List.append_cancel_left h))
  obtain ⟨hversion, h⟩ := Python.isPrefixCode_literal h
  replace h := List.append_cancel_left (List.append_cancel_left (List.append_cancel_left h))
  obtain ⟨hbindings, h⟩ := Python.isPrefixCode_entry.flatMap_inj Python.entry_append_ne h
  replace h := List.append_cancel_left (List.append_cancel_left (List.append_cancel_left h))
  obtain ⟨htypes, -⟩ := Python.isPrefixCode_types h
  cases info
  cases other
  rw [mk.injEq]
  exact ⟨hversion, NameMap.ext hbindings, htypes⟩

end ExportTable.Info
