import ExportTable.Json.Record
import ExportTable.Proofs.Bindings
import ExportTable.Proofs.Json.Texts
import ExportTable.Proofs.Result

/-!
# Records read from objects

A record is read from an object whatever the order of its members and whatever else it holds: all
members have names, no field is given twice, every field that is given passes its check, and the
value is built from the fields. Otherwise the first check that fails, in the order of the members, is
reported.
-/

namespace ExportTable.Json

/-- What the members of an object give. -/
def Given.ofMembers (members : List (String × Value)) : Given :=
  ⟨true, members.map fun member ↦ (member.1, member.2.draft)⟩

namespace Record

/-- The fields that are given pass their checks, and the value is built from them. -/
structure Reads (r : Record α) (given : Given) (a : α) : Prop where
  checks : ∀ field ∈ r.fields, ∀ d, given.find? field.1 = some d → field.2 d = .ok ()
  build : r.build given = .ok a

variable {given : Given}

theorem reads_field_iff {name : String} {read : Reader α} {a : α} :
    (field name read).Reads given a ↔ ∃ d, given.find? name = some d ∧ read d = .ok a := by
  constructor
  · rintro ⟨-, hbuild⟩
    change given.field name read = _ at hbuild
    rw [Given.field] at hbuild
    split at hbuild
    · next d hfind => exact ⟨d, hfind, hbuild⟩
    · cases hbuild
  · rintro ⟨d, hfind, hread⟩
    constructor
    · intro f hf other hother
      rw [List.mem_singleton.mp hf] at hother ⊢
      rw [hfind, Option.some.injEq] at hother
      rw [← hother]
      exact congrArg (Except.map fun _ ↦ ()) hread
    · change given.field name read = _
      rw [Given.field, hfind]
      exact hread

theorem reads_fieldOr_iff {name : String} {default : α} {read : Reader α} {a : α} :
    (fieldOr name default read).Reads given a ↔
      (∃ d, given.find? name = some d ∧ read d = .ok a) ∨
        given.find? name = none ∧ a = default := by
  constructor
  · rintro ⟨-, hbuild⟩
    change given.fieldOr name default read = _ at hbuild
    rw [Given.fieldOr] at hbuild
    split at hbuild
    · next d hfind => exact .inl ⟨d, hfind, hbuild⟩
    · next hfind => exact .inr ⟨hfind, (Except.ok.inj hbuild).symm⟩
  · rintro (⟨d, hfind, hread⟩ | ⟨hfind, rfl⟩)
    · refine ⟨(reads_field_iff.mpr ⟨d, hfind, hread⟩).checks, ?_⟩
      change given.fieldOr name default read = _
      rw [Given.fieldOr, hfind]
      exact hread
    · constructor
      · intro f hf other hother
        rw [List.mem_singleton.mp hf] at hother
        cases hfind.symm.trans hother
      · change given.fieldOr name a read = _
        rw [Given.fieldOr, hfind]

theorem reads_map_iff {r : Record α} {f : α → β} {b : β} :
    (f <$> r).Reads given b ↔ ∃ a, r.Reads given a ∧ f a = b := by
  constructor
  · rintro ⟨hchecks, hbuild⟩
    obtain ⟨a, ha, rfl⟩ := map_eq_ok_iff.mp hbuild
    exact ⟨a, ⟨hchecks, ha⟩, rfl⟩
  · rintro ⟨a, ⟨hchecks, ha⟩, rfl⟩
    exact ⟨hchecks, map_eq_ok_iff.mpr ⟨a, ha, rfl⟩⟩

theorem reads_seq_iff {f : Record (α → β)} {r : Record α} {b : β} :
    (f <*> r).Reads given b ↔ ∃ g a, f.Reads given g ∧ r.Reads given a ∧ g a = b := by
  constructor
  · rintro ⟨hchecks, hbuild⟩
    obtain ⟨g, hg, hbuild⟩ := bind_eq_ok_iff.mp hbuild
    obtain ⟨a, ha, hbuild⟩ := bind_eq_ok_iff.mp hbuild
    have hfirst := fun field hfield ↦ hchecks field (List.mem_append_left _ hfield)
    have hsecond := fun field hfield ↦ hchecks field (List.mem_append_right _ hfield)
    exact ⟨g, a, ⟨hfirst, hg⟩, ⟨hsecond, ha⟩, Except.ok.inj hbuild⟩
  · rintro ⟨g, a, ⟨hfirst, hg⟩, ⟨hsecond, ha⟩, rfl⟩
    constructor
    · intro field hfield
      rcases List.mem_append.mp hfield with hmem | hmem
      · exact hfirst field hmem
      · exact hsecond field hmem
    · exact bind_eq_ok_iff.mpr ⟨g, hg, bind_eq_ok_iff.mpr ⟨a, ha, rfl⟩⟩

theorem reads_field {name : String} {read : Reader α} {d : Draft} {a : α}
    (hfind : given.find? name = some d) (hread : read d = .ok a) :
    (field name read).Reads given a :=
  reads_field_iff.mpr ⟨d, hfind, hread⟩

theorem reads_fieldOr {name : String} {default : α} {read : Reader α} {d : Draft} {a : α}
    (hfind : given.find? name = some d) (hread : read d = .ok a) :
    (fieldOr name default read).Reads given a :=
  reads_fieldOr_iff.mpr (.inl ⟨d, hfind, hread⟩)

theorem reads_fieldIfNamed {name : String} {default : α} {read : Reader α} {d : Draft} {a : α}
    (hfind : given.find? name = some d) (hread : read d = .ok a) :
    (fieldIfNamed name default read).Reads given a where
  checks := (reads_field hfind hread).checks
  build := by
    change given.fieldIfNamed name default read = _
    rw [Given.fieldIfNamed, hfind]
    exact hread

theorem Reads.map {r : Record α} {a : α} (h : r.Reads given a) (f : α → β) :
    (f <$> r).Reads given (f a) :=
  reads_map_iff.mpr ⟨a, h, rfl⟩

theorem Reads.seq {f : Record (α → β)} {r : Record α} {g : α → β} {a : α} (hf : f.Reads given g)
    (h : r.Reads given a) : (f <*> r).Reads given (g a) :=
  reads_seq_iff.mpr ⟨g, a, hf, h, rfl⟩

/-! ## Members -/

/-- The members that give fields. -/
def known (fields : List (String × Reader Unit)) (members : List (Option String × Draft)) :
    List (String × Draft) :=
  members.filterMap fun member ↦
    member.1.bind fun name ↦ (fields.lookup name).map fun _ ↦ (name, member.2)

variable {fields : List (String × Reader Unit)} {members : List (Option String × Draft)}

/-- The members that give no field keep to the grammar. -/
def OthersAreWhole (fields : List (String × Reader Unit))
    (members : List (Option String × Draft)) : Prop :=
  ∀ name d, (some name, d) ∈ members → fields.lookup name = none → d.isWhole

theorem mem_known_iff {name : String} {d : Draft} :
    (name, d) ∈ known fields members ↔
      (some name, d) ∈ members ∧ ∃ check, fields.lookup name = some check := by
  rw [known, List.mem_filterMap]
  constructor
  · rintro ⟨⟨key, value⟩, hmem, hgiven⟩
    obtain ⟨other, rfl, hgiven⟩ := Option.bind_eq_some_iff.mp hgiven
    obtain ⟨check, hcheck, heq⟩ := Option.map_eq_some_iff.mp hgiven
    obtain ⟨rfl, rfl⟩ := Prod.mk.inj heq
    exact ⟨hmem, check, hcheck⟩
  · rintro ⟨hmem, check, hcheck⟩
    exact ⟨(some name, d), hmem, by rw [Option.bind_some, hcheck, Option.map_some]⟩

theorem known_cons_some {name : String} {d : Draft} {check : Reader Unit}
    (h : fields.lookup name = some check) :
    known fields ((some name, d) :: members) = (name, d) :: known fields members := by
  rw [known, List.filterMap_cons_some]
  · rfl
  · rw [Option.bind_some, h, Option.map_some]

theorem known_cons_none {name : String} {d : Draft} (h : fields.lookup name = none) :
    known fields ((some name, d) :: members) = known fields members := by
  rw [known, List.filterMap_cons_none]
  · rfl
  · rw [Option.bind_some, h, Option.map_none]

/-- Members that only give fields. -/
theorem known_map {values : List (String × Draft)}
    (h : ∀ value ∈ values, ∃ check, fields.lookup value.1 = some check) :
    known fields (values.map fun value ↦ (some value.1, value.2)) = values := by
  induction values with
  | nil => rfl
  | cons value rest ih =>
    obtain ⟨⟨check, hcheck⟩, hrest⟩ := List.forall_mem_cons.mp h
    rw [List.map_cons, known_cons_some hcheck, ih hrest]

theorem map_fst_known (fields : List (String × Reader Unit))
    (members : List (Option String × Draft)) :
    (known fields members).map Prod.fst =
      (members.filterMap Prod.fst).filter (· ∈ fields.map Prod.fst) := by
  induction members with
  | nil => rfl
  | cons member rest ih =>
    obtain ⟨key, d⟩ := member
    cases key with
    | none => exact ih
    | some name =>
      have hnames : ((some name, d) :: rest).filterMap Prod.fst = name :: rest.filterMap Prod.fst :=
        rfl
      have hfield : (∃ check, fields.lookup name = some check) ↔ name ∈ fields.map Prod.fst :=
        exists_lookup_eq_some_iff
      rw [hnames]
      cases hlookup : fields.lookup name with
      | none =>
        rw [hlookup] at hfield
        rw [known_cons_none hlookup, ih, List.filter_cons_of_neg (by simpa using hfield)]
      | some check =>
        have hname : name ∈ fields.map Prod.fst := hfield.mp ⟨check, hlookup⟩
        rw [known_cons_some hlookup, List.map_cons, ih,
          List.filter_cons_of_pos (by simpa only [decide_eq_true_iff] using hname)]

/-- Where no field is given twice, what is given for a field is in the member of its name. -/
theorem find?_known_eq_some_iff (honce : ((known fields members).map Prod.fst).Nodup)
    {name : String} (hname : name ∈ fields.map Prod.fst) {d : Draft} :
    Given.find? ⟨true, known fields members⟩ name = some d ↔ (some name, d) ∈ members := by
  rw [Given.find?, lookup_eq_some_iff_mem honce, mem_known_iff]
  exact and_iff_left (exists_lookup_eq_some_iff.mpr hname)

theorem find?_known_eq_none_iff (honce : ((known fields members).map Prod.fst).Nodup)
    {name : String} (hname : name ∈ fields.map Prod.fst) :
    Given.find? ⟨true, known fields members⟩ name = none ↔ ∀ d, (some name, d) ∉ members := by
  rw [Option.eq_none_iff_forall_ne_some]
  exact forall_congr' fun d ↦ not_congr (find?_known_eq_some_iff honce hname)

/-- What has been checked when the fields of an object are collected. -/
theorem of_collect_eq_ok {seen : List String} {values : List (String × Draft)}
    (h : collect fields seen members = .ok values) :
    values = known fields members ∧ (∀ member ∈ members, member.1.isSome) ∧
      (values.map Prod.fst).Nodup ∧
      ∀ value ∈ values, value.1 ∉ seen ∧
        ∃ check, fields.lookup value.1 = some check ∧ check value.2 = .ok () := by
  induction members generalizing seen values with
  | nil =>
    obtain rfl := Except.ok.inj h
    exact ⟨rfl, nofun, .nil, nofun⟩
  | cons member rest ih =>
    obtain ⟨key, d⟩ := member
    cases key with
    | none => cases h
    | some name =>
      rw [collect] at h
      split at h
      · next hlookup =>
        split at h
        · obtain ⟨rfl, hnamed, hnodup, hvalues⟩ := ih h
          refine ⟨(known_cons_none hlookup).symm, ?_, hnodup, hvalues⟩
          exact List.forall_mem_cons.mpr ⟨rfl, hnamed⟩
        · cases h
      · next check hlookup =>
        split at h
        · cases h
        · next hnew =>
          obtain ⟨⟨⟩, hcheck, h⟩ := bind_eq_ok_iff.mp h
          obtain ⟨later, hlater, h⟩ := bind_eq_ok_iff.mp h
          obtain rfl := Except.ok.inj h
          obtain ⟨rfl, hnamed, hnodup, hvalues⟩ := ih hlater
          refine ⟨(known_cons_some hlookup).symm, List.forall_mem_cons.mpr ⟨rfl, hnamed⟩, ?_, ?_⟩
          · refine List.nodup_cons.mpr ⟨fun hmem ↦ ?_, hnodup⟩
            obtain ⟨value, hvalue, heq⟩ := List.mem_map.mp hmem
            exact (hvalues value hvalue).1 (heq ▸ List.mem_cons_self)
          · refine List.forall_mem_cons.mpr ⟨⟨hnew, check, hlookup, hcheck⟩, ?_⟩
            intro value hvalue
            obtain ⟨hseen, hchecked⟩ := hvalues value hvalue
            exact ⟨fun hmem ↦ hseen (List.mem_cons_of_mem _ hmem), hchecked⟩

/-- The result of a check with the given fault. -/
def checked : Option ReadError → Except ReadError Unit
  | none => .ok ()
  | some e => .error e

/-- An object whose members have names, give no field twice and are whole where they give no field:
the first fault of a field is reported, and without faults the fields are collected. -/
theorem collect_of_checks (fault : String → Option ReadError)
    (hnamed : ∀ member ∈ members, member.1.isSome)
    (hwhole : OthersAreWhole fields members)
    (honce : ((known fields members).map Prod.fst).Nodup)
    (hchecks : ∀ value ∈ known fields members, ∀ check, fields.lookup value.1 = some check →
      check value.2 = checked (fault value.1))
    (seen : List String) (hseen : ∀ value ∈ known fields members, value.1 ∉ seen) :
    collect fields seen members =
      match ((known fields members).map Prod.fst).findSome? fault with
      | none => .ok (known fields members)
      | some e => .error e := by
  induction members generalizing seen with
  | nil => rfl
  | cons member rest ih =>
    obtain ⟨key, d⟩ := member
    obtain ⟨hkey, hnamedLater⟩ := List.forall_mem_cons.mp hnamed
    obtain ⟨name, rfl⟩ := Option.isSome_iff_exists.mp hkey
    have hlater : OthersAreWhole fields rest := fun other value hmem ↦
      hwhole other value (List.mem_cons_of_mem _ hmem)
    rw [collect]
    cases hlookup : fields.lookup name with
    | none =>
      rw [known_cons_none hlookup] at honce hchecks hseen ⊢
      dsimp only
      rw [if_pos (hwhole name d List.mem_cons_self hlookup)]
      exact ih hnamedLater hlater honce hchecks seen hseen
    | some check =>
      rw [known_cons_some hlookup] at honce hchecks hseen ⊢
      obtain ⟨hfresh, honce⟩ := List.nodup_cons.mp honce
      obtain ⟨hcheck, hchecks⟩ := List.forall_mem_cons.mp hchecks
      obtain ⟨hnew, hseen⟩ := List.forall_mem_cons.mp hseen
      have hrest : ∀ value ∈ known fields rest, value.1 ∉ name :: seen := by
        intro value hvalue hmem
        rcases List.mem_cons.mp hmem with heq | hmem
        · exact hfresh (List.mem_map.mpr ⟨value, hvalue, heq⟩)
        · exact hseen value hvalue hmem
      dsimp only at hnew ⊢
      rw [if_neg hnew, hcheck check hlookup, ih hnamedLater hlater honce hchecks _ hrest,
        List.map_cons, List.findSome?_cons]
      dsimp only
      cases fault name with
      | some e => rfl
      | none =>
        dsimp only
        cases ((known fields rest).map Prod.fst).findSome? fault <;> rfl

/-- A record is read of an object exactly if all members have names, no field is given twice, and
the record reads its value of the members that give its fields. -/
theorem readMembers_eq_ok_iff {r : Record α} {a : α} (hfields : (r.fields.map Prod.fst).Nodup)
    (hwhole : OthersAreWhole r.fields members) :
    r.readMembers members true = .ok a ↔
      (∀ member ∈ members, member.1.isSome) ∧ ((known r.fields members).map Prod.fst).Nodup ∧
        r.Reads ⟨true, known r.fields members⟩ a := by
  rw [readMembers]
  constructor
  · intro h
    obtain ⟨values, hvalues, hbuild⟩ := bind_eq_ok_iff.mp h
    rw [if_pos rfl] at hbuild
    obtain ⟨rfl, hnamed, honce, hchecked⟩ := of_collect_eq_ok hvalues
    refine ⟨hnamed, honce, fun field hfield d hfind ↦ ?_, hbuild⟩
    have hmem : (field.1, d) ∈ known r.fields members := (lookup_eq_some_iff_mem honce).mp hfind
    obtain ⟨-, check, hlookup, hcheck⟩ := hchecked _ hmem
    rw [(lookup_eq_some_iff_mem hfields).mpr hfield] at hlookup
    rwa [Option.some.inj hlookup]
  · rintro ⟨hnamed, honce, hchecks, hbuild⟩
    have hpass : ∀ value ∈ known r.fields members, ∀ check,
        r.fields.lookup value.1 = some check → check value.2 = checked none := by
      intro value hvalue check hcheck
      have hfield : (value.1, check) ∈ r.fields := (lookup_eq_some_iff_mem hfields).mp hcheck
      exact hchecks _ hfield _ ((lookup_eq_some_iff_mem honce).mpr hvalue)
    have hnone : ((known r.fields members).map Prod.fst).findSome?
        (fun _ ↦ (none : Option ReadError)) = none := by
      rw [List.findSome?_eq_none_iff]
      exact fun _ _ ↦ rfl
    have hcollect := collect_of_checks (fun _ ↦ none) hnamed hwhole honce hpass []
      fun _ _ ↦ List.not_mem_nil
    rw [hnone] at hcollect
    rw [hcollect]
    exact hbuild

/-- An object with exactly the fields of a record gives the value that the record reads of them. -/
theorem readMembers_of_reads {r : Record α} {values : List (String × Draft)} {a : α}
    (hfields : values.map Prod.fst = r.fields.map Prod.fst)
    (hnames : (r.fields.map Prod.fst).Nodup) (h : r.Reads ⟨true, values⟩ a) :
    r.readMembers (values.map fun value ↦ (some value.1, value.2)) true = .ok a := by
  have hknown : ∀ value ∈ values, ∃ check, r.fields.lookup value.1 = some check := by
    intro value hvalue
    have hmem : value.1 ∈ r.fields.map Prod.fst := hfields ▸ List.mem_map_of_mem hvalue
    obtain ⟨field, hfield, hname⟩ := List.mem_map.mp hmem
    exact ⟨field.2, hname ▸ (lookup_eq_some_iff_mem hnames).mpr hfield⟩
  have hgiven : OthersAreWhole r.fields (values.map fun value ↦ (some value.1, value.2)) := by
    intro name d hmem hnone
    obtain ⟨value, hvalue, heq⟩ := List.mem_map.mp hmem
    obtain rfl := Option.some.inj (Prod.mk.inj heq).1
    obtain ⟨check, hcheck⟩ := hknown value hvalue
    cases hnone.symm.trans hcheck
  refine (readMembers_eq_ok_iff hnames hgiven).mpr ⟨?_, ?_, ?_⟩
  · intro member hmember
    obtain ⟨value, -, rfl⟩ := List.mem_map.mp hmember
    rfl
  · rw [known_map hknown, hfields]
    exact hnames
  · rwa [known_map hknown]

theorem read_object {r : Record α} {members : List (String × Value)} {a : α}
    (hfields : members.map Prod.fst = r.fields.map Prod.fst)
    (hnames : (r.fields.map Prod.fst).Nodup) (h : r.Reads (.ofMembers members) a) :
    r.read (Value.object members).draft = .ok a := by
  have hvalues : (members.map fun member ↦ (member.1, member.2.draft)).map Prod.fst =
      r.fields.map Prod.fst := by
    rw [List.map_map, ← hfields]
    rfl
  have hread := readMembers_of_reads hvalues hnames h
  rw [Value.draft]
  rwa [List.map_map] at hread

end Record

end ExportTable.Json
