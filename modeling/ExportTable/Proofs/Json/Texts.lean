import ExportTable.Json.Value
import ExportTable.Proofs.Json.Drafts

/-!
# Values read back from their texts

The compact text and the pretty text of a value are texts of one draft, so both are read as this
draft, and nothing follows it.
-/

namespace ExportTable.Json

namespace Value

theorem sizeOf_lt_of_mem_array {items : List Value} {item : Value} (h : item ∈ items) :
    sizeOf item < sizeOf (array items) := by
  have hlt := List.sizeOf_lt_of_mem h
  rw [array.sizeOf_spec]
  omega

theorem sizeOf_lt_of_mem_object {members : List (String × Value)} {member : String × Value}
    (h : member ∈ members) : sizeOf member.2 < sizeOf (object members) := by
  have hlt := List.sizeOf_lt_of_mem h
  obtain ⟨key, value⟩ := member
  rw [Prod.mk.sizeOf_spec] at hlt
  rw [object.sizeOf_spec]
  dsimp only
  omega

/-- What the texts of the value are read as. -/
def draft : Value → Draft
  | null => .null
  | bool b => .bool b
  | number n => .number (.ofNat n)
  | string s => .string (some s)
  | array items => .array (items.map draft) true
  | object members => .object (members.map fun member ↦ (some member.1, member.2.draft)) true
termination_by v => v
decreasing_by
  · exact sizeOf_lt_of_mem_array ‹_›
  · exact sizeOf_lt_of_mem_object ‹_›

/-- What is written one after the other, with commas between. -/
theorem eq_intercalate {write : List α → List Char} {text : α → List Char} (hnil : write [] = [])
    (hlast : ∀ x, write [x] = text x)
    (hcons : ∀ x y rest, write (x :: y :: rest) = text x ++ ',' :: write (y :: rest))
    (l : List α) : write l = [','].intercalate (l.map text) := by
  induction l with
  | nil => exact hnil
  | cons x rest ih =>
    cases rest with
    | nil => exact (hlast x).trans List.intercalate_singleton.symm
    | cons y rest =>
      rw [hcons, ih, List.map_cons, List.map_cons, List.map_cons, List.intercalate_cons_cons,
        List.append_assoc, List.singleton_append]

theorem compactItems_eq (items : List Value) :
    compactItems items = [','].intercalate (items.map compact) :=
  eq_intercalate (by rw [compactItems]) (fun _ ↦ by rw [compactItems])
    (fun _ _ _ ↦ by rw [compactItems]; simp) items

theorem compactMembers_eq (members : List (String × Value)) :
    compactMembers members =
      [','].intercalate (members.map fun member ↦ escape member.1 ++ ':' :: member.2.compact) :=
  eq_intercalate (by rw [compactMembers]) (fun _ ↦ by rw [compactMembers])
    (fun _ _ _ ↦ by rw [compactMembers]; simp) members

theorem prettyItems_eq (level : Nat) (items : List Value) :
    prettyItems level items =
      [','].intercalate (items.map fun item ↦ newline level ++ item.prettyAt level) :=
  eq_intercalate (by rw [prettyItems]) (fun _ ↦ by rw [prettyItems])
    (fun _ _ _ ↦ by rw [prettyItems]; simp) items

theorem prettyMembers_eq (level : Nat) (members : List (String × Value)) :
    prettyMembers level members =
      [','].intercalate (members.map fun member ↦
        newline level ++ escape member.1 ++ ':' :: ' ' :: member.2.prettyAt level) :=
  eq_intercalate (by rw [prettyMembers]) (fun _ ↦ by rw [prettyMembers])
    (fun _ _ _ ↦ by rw [prettyMembers]; simp) members

/-- Whether the value is no container. -/
def isScalar : Value → Bool
  | array _ | object _ => false
  | _ => true

theorem compact_of_isScalar {v : Value} (h : v.isScalar) : v.compact = v.scalarText := by
  cases v with
  | array | object => contradiction
  | _ => rw [compact] <;> exact nofun

theorem prettyAt_of_isScalar {v : Value} (h : v.isScalar) (level : Nat) :
    v.prettyAt level = v.scalarText := by
  cases v with
  | array | object => contradiction
  | _ => rw [prettyAt] <;> exact nofun

end Value

/-! ## Texts of drafts -/

theorem allGaps_nil : AllGaps [] := nofun

theorem allGaps_newline (level : Nat) : AllGaps (Value.newline level) := by
  rw [Value.newline]
  refine List.forall_mem_cons.mpr ⟨rfl, fun c hc ↦ ?_⟩
  rw [List.eq_of_mem_replicate hc]
  rfl

namespace Draft.HasText

theorem after_gap {d : Draft} {gap cs : List Char} (hgap : AllGaps gap) (h : d.HasText cs) :
    d.HasText (gap ++ cs) := by
  have hpadded := h.padded hgap allGaps_nil
  rwa [List.append_nil] at hpadded

variable {l : List α} {draft : α → Draft} {text : α → List Char} {gap : List Char}

/-- A list written item by item. -/
theorem array_map (h : ∀ x ∈ l, (draft x).HasText (text x)) (hgap : AllGaps gap) :
    (Draft.array (l.map draft) true).HasText
      ('[' :: ([','].intercalate (l.map text) ++ (gap ++ [']']))) := by
  have hitems : ∀ item ∈ l.map fun x ↦ (draft x, text x), item.1.HasText item.2 := by
    simpa using h
  have hcontainer := array hitems hgap
  rwa [List.map_map, List.map_map] at hcontainer

/-- A list written member by member. -/
theorem object_map {key : α → String} {keyText : α → List Char}
    (hkeys : ∀ x ∈ l, (Draft.string (some (key x))).HasText (keyText x))
    (h : ∀ x ∈ l, (draft x).HasText (text x)) (hgap : AllGaps gap) :
    (Draft.object (l.map fun x ↦ (some (key x), draft x)) true).HasText
      ('\x7b' :: ([','].intercalate (l.map fun x ↦ keyText x ++ ':' :: text x) ++
        (gap ++ ['\x7d']))) := by
  let written (x : α) := ((some (key x), draft x), keyText x, text x)
  have hwrittenKeys : ∀ member ∈ l.map written, (Draft.string member.1.1).HasText member.2.1 := by
    simpa using hkeys
  have hwritten : ∀ member ∈ l.map written, member.1.2.HasText member.2.2 := by
    simpa using h
  have hcontainer := object hwrittenKeys hwritten hgap
  rwa [List.map_map, List.map_map] at hcontainer

end Draft.HasText

namespace Value

theorem hasText_scalarText {v : Value} (h : v.isScalar) : v.draft.HasText v.scalarText := by
  cases v with
  | null =>
    rw [draft]
    exact .null
  | bool b =>
    rw [draft]
    cases b
    · exact .boolFalse
    · exact .boolTrue
  | number n =>
    rw [draft]
    exact .number (numeralText_ofNat n)
  | string s =>
    rw [draft]
    exact .string (stringText_escape s)
  | array | object => contradiction

theorem hasText_compact (v : Value) : v.draft.HasText v.compact := by
  induction v using draft.induct with
  | case5 items ih =>
    rw [compact, compactItems_eq, draft]
    exact .array_map ih allGaps_nil
  | case6 members ih =>
    rw [compact, compactMembers_eq, draft]
    exact .object_map (fun member _ ↦ .string (stringText_escape member.1)) ih allGaps_nil
  | _ =>
    rw [compact_of_isScalar rfl]
    exact hasText_scalarText rfl

theorem hasText_prettyAt (v : Value) (level : Nat) : v.draft.HasText (v.prettyAt level) := by
  induction v using draft.induct generalizing level with
  | case5 items ih =>
    rw [draft]
    by_cases hempty : items = []
    · subst hempty
      have hcompact := hasText_compact (array [])
      rw [compact, compactItems, draft] at hcompact
      rw [prettyAt]
      exact hcompact
    · have hitems : ∀ item ∈ items,
          item.draft.HasText (newline (level + 1) ++ item.prettyAt (level + 1)) :=
        fun item hitem ↦ (ih item hitem (level + 1)).after_gap (allGaps_newline _)
      rw [prettyAt, prettyItems_eq, List.cons_append, List.cons_append, List.append_assoc]
      · exact .array_map hitems (allGaps_newline level)
      · exact hempty
  | case6 members ih =>
    rw [draft]
    by_cases hempty : members = []
    · subst hempty
      have hcompact := hasText_compact (object [])
      rw [compact, compactMembers, draft] at hcompact
      rw [prettyAt]
      exact hcompact
    · have hkeys : ∀ member ∈ members, (Draft.string (some member.1)).HasText
          (newline (level + 1) ++ escape member.1) := fun member _ ↦
        (Draft.HasText.string (stringText_escape member.1)).after_gap (allGaps_newline _)
      have hvalues : ∀ member ∈ members,
          member.2.draft.HasText ([' '] ++ member.2.prettyAt (level + 1)) := fun member hmember ↦
        (ih member hmember (level + 1)).after_gap (List.forall_mem_singleton.mpr rfl)
      rw [prettyAt, prettyMembers_eq, List.cons_append, List.cons_append, List.append_assoc]
      · exact .object_map hkeys hvalues (allGaps_newline level)
      · exact hempty
  | _ =>
    rw [prettyAt_of_isScalar rfl]
    exact hasText_scalarText rfl

end Value

/-! ## Read texts -/

theorem Document.read_compactText (v : Value) :
    Document.read v.compactText = ⟨v.draft, true⟩ := by
  apply read_of_hasText
  rw [Value.compactText, String.toList_ofList]
  exact v.hasText_compact

/-- The pretty text may have a line feed after it. -/
theorem Document.read_prettyText (v : Value) :
    Document.read (v.prettyText ++ "\n") = ⟨v.draft, true⟩ := by
  apply read_of_hasText
  rw [String.toList_append, Value.prettyText, String.toList_ofList]
  exact (v.hasText_prettyAt 0).padded allGaps_nil (List.forall_mem_singleton.mpr rfl)

end ExportTable.Json
