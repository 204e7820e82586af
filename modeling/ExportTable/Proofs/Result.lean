import Mathlib.Data.List.Forall2

/-!
# Results that succeed

A computation in two parts succeeds exactly when both parts do, and one over a list succeeds when it
does for every element. A computation extends another one if it gives all results of that one; this is
so for computations in parts when it is for the parts.
-/

namespace ExportTable

variable {ε α β : Type}

@[simp]
theorem ok_bind (a : α) (f : α → Except ε β) : (Except.ok a >>= f) = f a := rfl

@[simp]
theorem ok_map (f : α → β) (a : α) : (Except.ok a : Except ε α).map f = .ok (f a) := rfl

theorem bind_eq_ok_iff {x : Except ε α} {f : α → Except ε β} {b : β} :
    x >>= f = .ok b ↔ ∃ a, x = .ok a ∧ f a = .ok b := by
  cases x with
  | error e =>
    constructor
    · intro h
      cases h
    · rintro ⟨_, h, _⟩
      cases h
  | ok a => simp

theorem map_eq_ok_iff {x : Except ε α} {f : α → β} {b : β} :
    x.map f = .ok b ↔ ∃ a, x = .ok a ∧ f a = b := by
  cases x with
  | error e =>
    constructor
    · intro h
      cases h
    · rintro ⟨_, h, _⟩
      cases h
  | ok a => simp

theorem bind_eq_error_iff {x : Except ε α} {f : α → Except ε β} {e : ε} :
    x >>= f = .error e ↔ x = .error e ∨ ∃ a, x = .ok a ∧ f a = .error e := by
  cases x with
  | error fault => simp [bind, Except.bind]
  | ok a => simp

theorem map_eq_error_iff {x : Except ε α} {f : α → β} {e : ε} :
    x.map f = .error e ↔ x = .error e := by
  cases x <;> simp [Except.map]

theorem mapError_eq_ok_iff {ε' : Type} {x : Except ε α} {wrap : ε → ε'} {a : α} :
    x.mapError wrap = .ok a ↔ x = .ok a := by
  cases x <;> simp [Except.mapError]

/-! ## Results without their errors -/

theorem toOption_eq_some_iff {x : Except ε α} {a : α} : x.toOption = some a ↔ x = .ok a := by
  cases x <;> simp [Except.toOption]

theorem toOption_map (x : Except ε α) (f : α → β) : (x.map f).toOption = x.toOption.map f := by
  cases x <;> rfl

theorem toOption_bind (x : Except ε α) (f : α → Except ε β) :
    (x >>= f).toOption = x.toOption.bind fun a ↦ (f a).toOption := by
  cases x <;> rfl

/-! ## Results that are kept -/

/-- The second computation gives every result that the first one gives. -/
def Extends (x y : Except ε α) : Prop := ∀ a, x = .ok a → y = .ok a

namespace Extends

variable {x y : Except ε α}

protected theorem rfl : Extends x x := fun _ h ↦ h

theorem bind {f g : α → Except ε β} (hx : Extends x y) (hf : ∀ a, Extends (f a) (g a)) :
    Extends (x >>= f) (y >>= g) := by
  intro b h
  obtain ⟨a, ha, hb⟩ := bind_eq_ok_iff.mp h
  rw [hx a ha, ok_bind]
  exact hf a b hb

theorem map (hx : Extends x y) (f : α → β) : Extends (x.map f) (y.map f) := by
  intro b h
  obtain ⟨a, ha, rfl⟩ := map_eq_ok_iff.mp h
  rw [hx a ha, ok_map]

theorem mapError {ε' : Type} (hx : Extends x y) (wrap : ε → ε') :
    Extends (x.mapError wrap) (y.mapError wrap) := by
  intro a h
  exact mapError_eq_ok_iff.mpr (hx a (mapError_eq_ok_iff.mp h))

theorem of_toOption_eq (h : y.toOption = x.toOption) : Extends x y := by
  intro a ha
  rwa [← toOption_eq_some_iff, h, toOption_eq_some_iff]

theorem symm_of_ok {a : α} (h : Extends x y) (hx : x = .ok a) : Extends y x := by
  intro b hb
  rwa [h a hx, ← hx] at hb

theorem eq_of_ok {a : α} (h : Extends x y) (hx : x = .ok a) : y = x := (h a hx).trans hx.symm

end Extends

/-! ## Lists -/

theorem mapM_eq_some_map {f : α → Option β} {g : α → β} {as : List α}
    (h : ∀ a ∈ as, f a = some (g a)) : as.mapM f = some (as.map g) := by
  induction as with
  | nil => rfl
  | cons a rest ih =>
    obtain ⟨ha, hrest⟩ := List.forall_mem_cons.mp h
    rw [List.mapM_cons, ha, ih hrest]
    rfl

theorem exists_of_forall₂ {R : α → β → Prop} {as : List α} {bs : List β} (h : List.Forall₂ R as bs)
    {b : β} (hmem : b ∈ bs) : ∃ a ∈ as, R a b := by
  induction h with
  | nil => cases hmem
  | cons hfirst _ ih =>
    rcases List.mem_cons.mp hmem with rfl | hrest
    · exact ⟨_, List.mem_cons_self, hfirst⟩
    · obtain ⟨a, ha, hrelated⟩ := ih hrest
      exact ⟨a, List.mem_cons_of_mem _ ha, hrelated⟩

theorem mapM_eq_some_iff_forall₂ {f : α → Option β} {as : List α} {bs : List β} :
    as.mapM f = some bs ↔ List.Forall₂ (fun a b ↦ f a = some b) as bs := by
  induction as generalizing bs with
  | nil => cases bs <;> simp
  | cons a rest ih =>
    have hcons : (a :: rest).mapM f = some bs ↔
        ∃ b, f a = some b ∧ ∃ later, rest.mapM f = some later ∧ b :: later = bs := by
      simp [List.mapM_cons, Option.bind_eq_some_iff]
    rw [hcons]
    constructor
    · rintro ⟨b, hb, later, hlater, rfl⟩
      exact .cons hb (ih.mp hlater)
    · rintro (_ | ⟨hb, hlater⟩)
      exact ⟨_, hb, _, ih.mpr hlater, rfl⟩

end ExportTable
