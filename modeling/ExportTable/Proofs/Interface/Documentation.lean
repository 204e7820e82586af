import ExportTable.Proofs.CSource.Comments
import ExportTable.Proofs.Interface.HeaderTokens
import ExportTable.Proofs.Text.Lines

/-!
# Documentation in headers

The documentation of an interface stands in a comment of its header, line by line. A header with
documentation is read like one without exactly if the comment is read as no words, and it is unless
the documentation holds the end mark of a comment.
-/

namespace ExportTable

open CSource

namespace Interface

/-! ## The comment -/

/-- The text of the comment up to its last line. -/
def docLines (doc : String) : List Char :=
  '\n' :: (Text.lines doc.toList).flatMap fun line ↦ (docLine line).toList

theorem toList_docComment (doc : String) :
    (docComment doc).toList = (Part.blockComment (docLines doc ++ [' '])).text ++ ['\n'] := by
  simp [docComment, docLines, Part.text, String.toList_join, List.flatMap_map]

theorem not_closesComment_flatMap {lines : List (List Char)}
    (h : ∀ line ∈ lines, ¬ ClosesComment line) :
    ¬ ClosesComment (lines.flatMap fun line ↦ (docLine line).toList) := by
  induction lines with
  | nil => exact not_closesComment_nil
  | cons line rest ih =>
    obtain ⟨hline, hrest⟩ := List.forall_mem_cons.mp h
    rw [List.flatMap_cons, docLine]
    split
    · have htext : " *\n".toList = [' ', '*'] ++ ['\n'] := rfl
      rw [htext, List.append_assoc, List.singleton_append,
        closesComment_append_cons (by decide) (by decide)]
      exact not_or.mpr ⟨by decide, ih hrest⟩
    · have htext : (" * " ++ String.ofList line ++ "\n").toList =
          [' ', '*'] ++ ' ' :: line ++ ['\n'] := by
        simp
      rw [htext, List.append_assoc, List.singleton_append,
        closesComment_append_cons (by decide) (by decide),
        closesComment_append_cons (by decide) (by decide)]
      exact not_or.mpr ⟨not_or.mpr ⟨by decide, hline⟩, ih hrest⟩

theorem not_closesComment_docLines {doc : String} (h : ¬ ClosesComment doc.toList) :
    ¬ ClosesComment (docLines doc ++ [' ']) := by
  have hlines : ∀ line ∈ Text.lines doc.toList, ¬ ClosesComment line :=
    fun line hline hcloses ↦ h (hcloses.trans (Text.infix_of_mem_lines hline))
  have htext := not_closesComment_flatMap hlines
  rw [closesComment_append_cons (by decide) (by decide), docLines, closesComment_cons]
  simp [htext, not_closesComment_nil]

theorem words?_docComment {doc : String} (h : ¬ ClosesComment doc.toList) :
    words? (docComment doc) = some [] := by
  have hstart : LexState.initial.lineStart = true ↔
      (TokenOnLine [] → '\n' ∈ docLines doc ++ [' ']) := by
    simp [LexState.initial, docLines]
  have hfit : Fit [] [] [] := trivial
  have hwords := wordsFrom_blockComment hfit (by decide) (by simp) (not_closesComment_docLines h)
    hstart ['\n']
  rw [words?, toList_docComment]
  simpa [textOf, tokensOf, wordsFrom_feed] using hwords

/-! ## The header -/

/-- The comment stands after a line that ends a comment. -/
theorem exists_header_eq (interface : Interface) (typeDefinitions : String) :
    ∃ front rest : String, ∀ doc : Option String,
      { interface with doc }.header typeDefinitions =
        front ++ " */\n" ++ doc.elim "" docComment ++ rest := by
  let title := "/* This file is auto generated by bhapi-weld - do not edit manually"
  have hbanner : banner = title ++ " */\n" := rfl
  have hsame (doc : Option String) :
      { interface with doc }.functionMacros = interface.functionMacros ∧
        { interface with doc }.countDefinition = interface.countDefinition ∧
        { interface with doc }.providerSection = interface.providerSection ∧
        { interface with doc }.consumerSection = interface.consumerSection :=
    ⟨rfl, rfl, rfl, rfl⟩
  exists s!"#ifndef {interface.names.guard}\n#define {interface.names.guard}\n\n" ++ title
  apply Exists.intro
  intro doc
  obtain ⟨hmacros, hcount, hprovider, hconsumer⟩ := hsame doc
  delta header
  rw [hmacros, hcount, hprovider, hconsumer, hbanner]
  simp only [String.append_assoc]
  rfl

theorem words?_header_doc_eq_iff (interface : Interface) (doc typeDefinitions : String) :
    words? ({ interface with doc := some doc }.header typeDefinitions) =
        words? ({ interface with doc := none }.header typeDefinitions) ↔
      words? ({ interface with doc := none }.header typeDefinitions) = none ∨
        words? (docComment doc) = some [] := by
  obtain ⟨front, rest, hheader⟩ := exists_header_eq interface typeDefinitions
  have hnone : words? ({ interface with doc := none }.header typeDefinitions) =
      wordsFrom .initial (front.toList ++ ' ' :: '*' :: '/' :: '\n' :: rest.toList) := by
    simp [words?, hheader]
  have hsome : words? ({ interface with doc := some doc }.header typeDefinitions) =
      wordsFrom .initial (front.toList ++ ' ' :: '*' :: '/' :: '\n' ::
        ((docComment doc).toList ++ rest.toList)) := by
    simp [words?, hheader]
  have hinner (rest : List Char) : (docComment doc).toList ++ rest =
      '/' :: '*' :: docLines doc ++ ' ' :: '*' :: '/' :: '\n' :: rest := by
    simp [toList_docComment, Part.text]
  have hcomment : words? (docComment doc) =
      wordsFrom .initial ('/' :: '*' :: docLines doc ++ ' ' :: '*' :: '/' :: '\n' :: []) := by
    rw [words?, ← hinner, List.append_nil]
  rw [hnone, hsome, hcomment, hinner]
  -- Neither what stands before the comment nor the comment itself is read into the text after it.
  rcases wordsFrom_commentEnd front.toList with hfront | ⟨first, hfront⟩
  · simp [hfront]
  rcases wordsFrom_commentEnd ('/' :: '*' :: docLines doc) with hdoc | ⟨words, hdoc⟩
  · rw [hfront, hfront, hdoc, hdoc]
    cases wordsFrom .initial rest.toList <;> simp
  · rw [hfront, hfront, hdoc, hdoc]
    cases wordsFrom .initial rest.toList <;> simp

/-- Documentation without an end mark is never read. In general it makes no difference exactly if its
comment alone has no words, or if the header cannot be read even without it. -/
theorem words?_header_doc (interface : Interface) (doc typeDefinitions : String) :
    (¬ ClosesComment doc.toList →
      words? ({ interface with doc := some doc }.header typeDefinitions) =
        words? ({ interface with doc := none }.header typeDefinitions)) ∧
    (words? ({ interface with doc := some doc }.header typeDefinitions) =
        words? ({ interface with doc := none }.header typeDefinitions) ↔
      words? ({ interface with doc := none }.header typeDefinitions) = none ∨
        words? (docComment doc) = some []) := by
  have hiff := words?_header_doc_eq_iff interface doc typeDefinitions
  exact ⟨fun h ↦ hiff.mpr (.inr (words?_docComment h)), hiff⟩

/-- Start marks, a star and a slash on two lines, and a backslash at the end. -/
theorem words?_header_doc_marks :
    ¬ ClosesComment "/* sums *\r\n/ // of\n\n\"arrays\\".toList ∧
      words? ((⟨customNames, [], some "/* sums *\r\n/ // of\n\n\"arrays\\"⟩ : Interface).header
          openTypes) =
        words? ((⟨customNames, [], none⟩ : Interface).header openTypes) := by
  have hdoc : ¬ ClosesComment "/* sums *\r\n/ // of\n\n\"arrays\\".toList := by decide +kernel
  exact ⟨hdoc, (words?_header_doc ⟨customNames, [], none⟩ _ openTypes).1 hdoc⟩

/-- The end mark in the documentation closes the comment, and what follows it is read as code. -/
theorem doc_read_as_code :
    ¬ ∀ (interface : Interface) (doc typeDefinitions : String),
      words? ({ interface with doc := some doc }.header typeDefinitions) =
        words? ({ interface with doc := none }.header typeDefinitions) := by
  intro h
  have hcomment : words? (docComment "*/ int leak;") =
      some [.name "int", .name "leak", .mark ';', .mark '*', .mark '/'] := by
    decide +kernel
  have hvalid : (⟨{}, [], none⟩ : Interface).validate = .ok () := by decide +kernel
  have htypes : tokenize (String.ofList (Text.trimEnd "".toList)) = .ok [] := by decide +kernel
  obtain ⟨tokens, htokens, _⟩ := tokenize_of_readsAs
    (readsAs_header (validate_eq_ok_iff.mp hvalid) rfl (by simp) htypes)
  have hread := words?_of_tokenize htokens
  rcases (words?_header_doc_eq_iff _ _ _).mp (h ⟨{}, [], none⟩ "*/ int leak;" "") with hnone | hnone
  · exact absurd (hread.symm.trans hnone) (by simp)
  · exact absurd (hcomment.symm.trans hnone) (by simp)

end Interface

end ExportTable
