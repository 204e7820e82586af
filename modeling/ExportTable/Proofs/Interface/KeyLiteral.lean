import ExportTable.Capsule.Foreign
import ExportTable.Proofs.Capsule.WriteOnce
import ExportTable.Proofs.CSource.Words
import ExportTable.Proofs.FileStore.Reading
import ExportTable.Proofs.Interface.HeaderTokens

/-!
# The capsule key in C

The routine that fetches the table has one string literal. In a valid interface it spells the
capsule key, and what C reads there ends at the first null character. A key without null characters
is looked up as it is; validation lets the others pass, and C looks up another key in their place.
-/

namespace ExportTable.Capsule

/-! ## Texts that C reads -/

/-- The text before its first null character. -/
def beforeNull (text : String) : String := String.ofList (text.toList.takeWhile (· ≠ '\x00'))

theorem beforeNull_eq_self_iff {text : String} :
    beforeNull text = text ↔ '\x00' ∉ text.toList := by
  rw [beforeNull, ← String.toList_inj, String.toList_ofList, List.takeWhile_eq_self_iff]
  constructor
  · intro h hmem
    exact absurd (h _ hmem) (by decide)
  · intro h c hc
    rw [decide_eq_true_eq]
    rintro rfl
    exact h hc

/-- Of the bytes of a text only those of null characters are zero. -/
theorem zero_notMem_utf8EncodeChar {c : Char} (h : c ≠ '\x00') :
    0 ∉ String.utf8EncodeChar c := by
  have hpos : c.val.toNat ≠ 0 := fun hzero ↦ h (Char.ext (UInt32.toNat_inj.mp hzero))
  have hbyte (n : Nat) : (0 : UInt8) = UInt8.ofNat n ↔ n % 256 = 0 := by
    rw [← UInt8.toNat_inj, UInt8.toNat_ofNat']
    exact eq_comm
  unfold String.utf8EncodeChar
  dsimp only
  -- Each byte of a longer sequence has its highest bit set.
  split_ifs <;> simp only [List.mem_cons, List.not_mem_nil, hbyte, or_false, not_or] <;> omega

theorem takeWhile_utf8Encode (cs : List Char) :
    (cs.flatMap String.utf8EncodeChar ++ [0]).takeWhile (· ≠ 0) =
      (cs.takeWhile (· ≠ '\x00')).flatMap String.utf8EncodeChar := by
  induction cs with
  | nil => rfl
  | cons c cs ih =>
    by_cases hc : c = '\x00'
    · subst hc
      rfl
    · have hbytes : ∀ byte ∈ String.utf8EncodeChar c, decide (byte ≠ 0) := by
        intro byte hbyte
        rw [decide_eq_true_eq]
        rintro rfl
        exact zero_notMem_utf8EncodeChar hc hbyte
      rw [List.flatMap_cons, List.append_assoc, List.takeWhile_append_of_pos hbytes, ih,
        List.takeWhile_cons_of_pos (by simpa using hc), List.flatMap_cons]

theorem toList_toUTF8 (text : String) :
    text.toUTF8.data.toList = text.toList.flatMap String.utf8EncodeChar := by
  rw [String.toUTF8_eq_toByteArray, ← String.utf8Encode_toList, List.utf8Encode,
    List.toList_data_toByteArray]

/-! ## Keys in a registry -/

/-- After the first publication only its key is found. -/
theorem Registry.exists_publish {key : String} (hkey : key ≠ "") (table : Table) :
    ∃ registry, Registry.publish {} key table = .ok registry ∧ registry.acquire key = .ok table ∧
      ∀ other ≠ key, ∃ e, registry.acquire other = .error e := by
  have hpublish : Registry.publish {} key table =
      .ok ⟨({} : Registry).tables.insert key table⟩ := by
    rw [publish, if_neg hkey]
    rfl
  refine ⟨_, hpublish, ?_, fun other hother ↦ ?_⟩
  · exact acquire_of_find? hkey (by rw [find?_publish hpublish, if_pos rfl])
  · have hnone := find?_publish hpublish other
    rw [if_neg hother] at hnone
    rw [acquire, hnone]
    by_cases hempty : other = ""
    · exact ⟨_, if_pos hempty⟩
    · exact ⟨_, if_neg hempty⟩

namespace Foreign

/-- A pointer to the bytes of a text and the zero byte that C puts after a string literal. -/
def literal (text : String) : KeyPointer := some (text.toUTF8.data.toList ++ [0])

theorem readKey_literal (text : String) : readKey (literal text) = .ok (beforeNull text) := by
  have hbytes : (text.toUTF8.data.toList ++ [0]).takeWhile (· ≠ 0) =
      (beforeNull text).toUTF8.data.toList := by
    calc
      _ = (text.toList.flatMap String.utf8EncodeChar ++ [0]).takeWhile (· ≠ 0) := by
        rw [toList_toUTF8]
      _ = (text.toList.takeWhile (· ≠ '\x00')).flatMap String.utf8EncodeChar :=
        takeWhile_utf8Encode text.toList
      _ = (beforeNull text).toList.flatMap String.utf8EncodeChar := by
        rw [beforeNull, String.toList_ofList]
      _ = (beforeNull text).toUTF8.data.toList := (toList_toUTF8 _).symm
  have hread := FileStore.fromUTF8?_eq_some_iff.mpr (Eq.refl (beforeNull text).toUTF8)
  rw [literal, readKey, hbytes, hread]

theorem acquire_literal (registry : Registry) (text : String) :
    acquire registry (literal text) = registry.acquire (beforeNull text) := by
  rw [acquire, readKey_literal, ok_bind]

end Foreign

end ExportTable.Capsule

namespace ExportTable.CSource

/-- The text between the quotes of a string literal. -/
def Word.unquoted? (word : Word) : Option String :=
  if word.1 = .literal ∧ word.2.toList.head? = some '"' then
    some (String.ofList word.2.toList.tail.dropLast)
  else none

/-- The texts of the string literals in a source. -/
def stringLiterals (source : String) : List String :=
  ((words? source).getD []).filterMap Word.unquoted?

@[simp]
theorem Word.unquoted?_quoted (text : String) : (Word.quoted text).unquoted? = some text := by
  simp [Word.unquoted?, Word.quoted]

@[simp]
theorem Word.unquoted?_name (text : String) : (Word.name text).unquoted? = none := rfl

@[simp]
theorem Word.unquoted?_numeral (text : String) : (Word.numeral text).unquoted? = none := rfl

@[simp]
theorem Word.unquoted?_mark (c : Char) : (Word.mark c).unquoted? = none := rfl

theorem stringLiterals_of_readsAs {text : String} {words : List Word} (h : ReadsAs text words) :
    stringLiterals text = words.filterMap Word.unquoted? := by
  obtain ⟨tokens, htokens, rfl⟩ := tokenize_of_readsAs h
  rw [stringLiterals, words?_of_tokenize htokens, Option.getD_some]

end ExportTable.CSource

namespace ExportTable.Interface

open CSource Capsule

/-- The capsule key is the only string literal around the routine that fetches the table. -/
theorem stringLiterals_importSection {interface : Interface} (h : interface.Valid) :
    stringLiterals (importSection interface.names) = [interface.names.capsuleKey] := by
  rw [stringLiterals_of_readsAs (readsAs_importSection h.isIdentifier h.capsuleKey_fits)]
  have hlookup : (lookupWords interface.names).filterMap Word.unquoted? = [] := by
    rw [lookupWords]
    split
    · rfl
    · simp [List.filterMap_cons, lookupDeclaration]
  simp [List.filterMap_cons, hlookup, externWords, tableWords, importWords, importHead,
    importedWords, fetchWords, resultWords]

/-- What the routine passes to its lookup function. -/
def importedKey (names : Names) : Foreign.KeyPointer :=
  (stringLiterals (importSection names)).head?.bind Foreign.literal

theorem importedKey_eq {interface : Interface} (h : interface.Valid) :
    importedKey interface.names = Foreign.literal interface.names.capsuleKey := by
  rw [importedKey, stringLiterals_importSection h]
  rfl

/-- With the literal of a valid interface C asks for the part of the capsule key before its first
null character. This is the key itself unless it holds a null character, and then its table is not
found even if no other one is published. -/
theorem acquire_importedKey {interface : Interface} (h : interface.validate = .ok ()) :
    stringLiterals (importSection interface.names) = [interface.names.capsuleKey] ∧
      Foreign.readKey (importedKey interface.names) =
        .ok (beforeNull interface.names.capsuleKey) ∧
      (∀ registry, Foreign.acquire registry (importedKey interface.names) =
        registry.acquire (beforeNull interface.names.capsuleKey)) ∧
      (beforeNull interface.names.capsuleKey = interface.names.capsuleKey ↔
        '\x00' ∉ interface.names.capsuleKey.toList) ∧
      ('\x00' ∈ interface.names.capsuleKey.toList → ∀ table, ∃ registry e,
        Registry.publish {} interface.names.capsuleKey table = .ok registry ∧
          registry.acquire interface.names.capsuleKey = .ok table ∧
          Foreign.acquire registry (importedKey interface.names) = .error e) := by
  have hvalid := validate_eq_ok_iff.mp h
  rw [importedKey_eq hvalid]
  refine ⟨stringLiterals_importSection hvalid, Foreign.readKey_literal _,
    fun registry ↦ Foreign.acquire_literal registry _, beforeNull_eq_self_iff, ?_⟩
  intro hnull table
  have hother : beforeNull interface.names.capsuleKey ≠ interface.names.capsuleKey := by
    rw [ne_eq, beforeNull_eq_self_iff, not_not]
    exact hnull
  obtain ⟨registry, hpublish, hacquire, hnone⟩ :=
    Registry.exists_publish hvalid.capsuleKey_ne table
  obtain ⟨e, he⟩ := hnone _ hother
  exact ⟨registry, e, hpublish, hacquire, by rw [Foreign.acquire_literal, he]⟩

/-- The key has a null character after a character of two bytes. -/
def splitInterface : Interface where
  names := { capsuleKey := "größe\x00_C_API", lookupFunction := "bh_capsule_import" }
  slots := Slot.assign [⟨"int", "create", "(void)"⟩]

theorem acquire_importedKey_splitInterface :
    splitInterface.validate = .ok () ∧
      stringLiterals (importSection splitInterface.names) = ["größe\x00_C_API"] ∧
      Foreign.readKey (importedKey splitInterface.names) = .ok "größe" ∧
      ∀ table, ∃ registry e, Registry.publish {} "größe\x00_C_API" table = .ok registry ∧
        registry.acquire "größe\x00_C_API" = .ok table ∧
        Foreign.acquire registry (importedKey splitInterface.names) = .error e := by
  have hvalid : splitInterface.validate = .ok () := by decide +kernel
  have hnull : '\x00' ∈ splitInterface.names.capsuleKey.toList := by decide +kernel
  have hbefore : beforeNull splitInterface.names.capsuleKey = "größe" := by decide +kernel
  obtain ⟨hliterals, hread, _, _, hlost⟩ := acquire_importedKey hvalid
  rw [hbefore] at hread
  exact ⟨hvalid, hliterals, hread, hlost hnull⟩

/-- A valid key that C does not read in full. -/
theorem not_forall_readKey_importedKey :
    ¬ ∀ interface : Interface, interface.validate = .ok () →
      Foreign.readKey (importedKey interface.names) = .ok interface.names.capsuleKey ∧
        ∀ registry, (Foreign.acquire registry (importedKey interface.names)).toOption =
          (registry.acquire interface.names.capsuleKey).toOption := by
  intro h
  have hvalid : ({ names := { capsuleKey := "a\x00b" } } : Interface).validate = .ok () := by
    decide +kernel
  have hread := (h _ hvalid).1
  rw [importedKey_eq (validate_eq_ok_iff.mp hvalid), Foreign.readKey_literal] at hread
  have hsame : beforeNull "a\x00b" = "a\x00b" := Except.ok.inj hread
  revert hsame
  decide +kernel

end ExportTable.Interface
