import ExportTable.Proofs.CSource.Reading
import ExportTable.Proofs.Extraction.Scanning

/-!
# Slots when text is appended

A function is found at the token that ends its declaration, from that token and those before it. So
a provider source that is extended by further lines keeps its functions and their slots, wherever
the extension begins: in a body, in a declaration without an end, or in a directive that goes on.
-/

namespace ExportTable.Extraction

open CSource

/-- What is found in a stream is found where the stream begins a longer one. -/
theorem prefix_of_extractFrom {exportPrefix : String} {s : Scan} {front back : List Token}
    {first all : List Signature} (hfirst : extractFrom exportPrefix s front = .ok first)
    (hall : extractFrom exportPrefix s (front ++ back) = .ok all) : first <+: all := by
  rw [← List.append_nil front] at hfirst
  obtain ⟨middle, found, unended, hrun, hnil, rfl⟩ := extractFrom_append_eq_ok_iff.mp hfirst
  obtain ⟨middle', found', later, hrun', _, rfl⟩ := extractFrom_append_eq_ok_iff.mp hall
  have hsame : (middle, found) = (middle', found') := Except.ok.inj (hrun.symm.trans hrun')
  rw [eq_nil_of_extractFrom_nil hnil, List.append_nil, (Prod.mk.inj hsame).2]
  exact List.prefix_append found' later

/-- Text appended on a new line adds functions after those that are there, which keep their slots. -/
theorem slots_prefix_of_append_line {exportPrefix source appended : String}
    {first all : List Signature} (hfirst : extractSignatures exportPrefix source = .ok first)
    (hall : extractSignatures exportPrefix (source ++ "\n" ++ appended) = .ok all) :
    first <+: all ∧ Slot.assign first <+: Slot.assign all := by
  obtain ⟨front, hfront, hextract⟩ := tokens_of_extractSignatures hfirst
  obtain ⟨tokens, htokens, hlonger⟩ := tokens_of_extractSignatures hall
  obtain ⟨back, rfl⟩ := prefix_tokenize_append_line hfront htokens
  have hbegins := prefix_of_extractFrom hextract hlonger
  exact ⟨hbegins, Slot.prefix_assign hbegins⟩

/-- The appended text continues a directive and, after it, a declaration. -/
theorem slots_prefix_of_append_line_openDirective :
    extractSignatures "A" "static int A_f(void) \x7b \x7d static int\n#define X \\" =
      .ok [⟨"int", "f", "(void)"⟩] ∧
    extractSignatures "A" ("static int A_f(void) \x7b \x7d static int\n#define X \\" ++ "\n" ++
      "= 1\nA_g(int n) \x7b \x7d") = .ok [⟨"int", "f", "(void)"⟩, ⟨"int", "g", "(int n)"⟩] ∧
    [⟨"int", "f", "(void)"⟩] <+: ([⟨"int", "f", "(void)"⟩, ⟨"int", "g", "(int n)"⟩] :
      List Signature) ∧
    Slot.assign [⟨"int", "f", "(void)"⟩] <+:
      Slot.assign [⟨"int", "f", "(void)"⟩, ⟨"int", "g", "(int n)"⟩] := by
  have hfirst : extractSignatures "A" "static int A_f(void) \x7b \x7d static int\n#define X \\" =
      .ok [⟨"int", "f", "(void)"⟩] := by decide +kernel
  have hall : extractSignatures "A"
      ("static int A_f(void) \x7b \x7d static int\n#define X \\" ++ "\n" ++
        "= 1\nA_g(int n) \x7b \x7d") = .ok [⟨"int", "f", "(void)"⟩, ⟨"int", "g", "(int n)"⟩] := by
    decide +kernel
  exact ⟨hfirst, hall, slots_prefix_of_append_line hfirst hall⟩

end ExportTable.Extraction
