import ExportTable.Json.Read
import ExportTable.Proofs.Json.Texts
import ExportTable.Proofs.Result

/-!
# Readers on values

What the readers make of the drafts of values.
-/

namespace ExportTable.Json

theorem Reader.readText_of_read {read : Reader α} {text : String} {d : Draft} {a : α}
    (htext : Document.read text = ⟨d, true⟩) (hread : read d = .ok a) :
    read.readText text = .ok a := by
  rw [readText, htext, hread]
  rfl

namespace Reader

theorem ofOption_eq_ok_iff {o : Option α} {a : α} : ofOption o = .ok a ↔ o = some a := by
  cases o <;> simp [ofOption]

theorem text_draft (s : String) : text (Value.string s).draft = .ok s := by
  rw [Value.draft]
  rfl

theorem bool_draft (b : Bool) : bool (Value.bool b).draft = .ok b := by
  rw [Value.draft]
  rfl

theorem natural_draft {bound n : Nat} (h : n < bound) :
    natural bound (Value.number n).draft = .ok n := by
  rw [Value.draft, natural, natural?_ofNat, Option.filter_some, if_pos (decide_eq_true h)]
  rfl

theorem lenientNatural_draft {n : Nat} (h : n < UInt32.size) :
    lenientNatural (Value.number n).draft = .ok n := by
  have hwide : n < UInt64.size := Nat.lt_trans h (by decide)
  rw [Value.draft, lenientNatural]
  dsimp only
  rw [natural?_ofNat, Option.filter_some, if_pos (decide_eq_true hwide)]
  exact if_pos h

theorem lenientBool_draft (b : Bool) : lenientBool (Value.bool b).draft = .ok b := by
  rw [Value.draft]
  rfl

theorem all_draft {read : Reader α} {encode : α → Value} {l : List α}
    (h : ∀ a ∈ l, read (encode a).draft = .ok a) :
    all read (l.map fun a ↦ (encode a).draft) = .ok l := by
  induction l with
  | nil => rfl
  | cons a rest ih =>
    obtain ⟨ha, hrest⟩ := List.forall_mem_cons.mp h
    rw [List.map_cons, all, ha, ok_bind, ih hrest, ok_bind]
    rfl

theorem list_draft {read : Reader α} {encode : α → Value} {l : List α}
    (h : ∀ a ∈ l, read (encode a).draft = .ok a) :
    list read (Value.ofList encode l).draft = .ok l := by
  have hall := all_draft h
  rw [Value.ofList, Value.draft, List.map_map, list, Function.comp_def, hall]
  rfl

theorem text_eq_ok_iff {d : Draft} {s : String} : text d = .ok s ↔ d = (Value.string s).draft := by
  constructor
  · intro h
    unfold text at h
    split at h
    · obtain rfl := ofOption_eq_ok_iff.mp h
      rw [Value.draft]
    · cases h
  · rintro rfl
    exact text_draft s

/-- A list is read from the draft of the list only, if this is so for its items. -/
theorem list_eq_ok_iff {read : Reader α} {encode : α → Value}
    (h : ∀ d a, read d = .ok a ↔ d = (encode a).draft) {d : Draft} {l : List α} :
    list read d = .ok l ↔ d = (Value.ofList encode l).draft := by
  have hall (items : List Draft) (l : List α) (hitems : all read items = .ok l) :
      items = l.map fun a ↦ (encode a).draft := by
    induction items generalizing l with
    | nil =>
      obtain rfl := Except.ok.inj hitems
      rfl
    | cons item items ih =>
      obtain ⟨a, ha, hitems⟩ := bind_eq_ok_iff.mp hitems
      obtain ⟨rest, hrest, hitems⟩ := bind_eq_ok_iff.mp hitems
      obtain rfl := Except.ok.inj hitems
      rw [List.map_cons, ← (h item a).mp ha, ← ih rest hrest]
  constructor
  · intro hread
    unfold list at hread
    split at hread
    · obtain ⟨items, hitems, hread⟩ := bind_eq_ok_iff.mp hread
      split at hread
      · next hclosed =>
        obtain rfl := Except.ok.inj hread
        rw [hall _ _ hitems, hclosed, Value.ofList, Value.draft, List.map_map]
        rfl
      · cases hread
    · cases hread
  · rintro rfl
    exact list_draft fun a _ ↦ (h _ a).mpr rfl

theorem option_text_draft (o : Option String) :
    option text (Value.ofOption .string o).draft = .ok o := by
  cases o <;> rw [Value.ofOption, Value.draft] <;> rfl

end Reader

end ExportTable.Json
