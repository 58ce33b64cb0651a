import TypstPress.Pipeline
import TypstPress.Proofs.Attempt
import TypstPress.Proofs.Markdown.Encodable
import TypstPress.Proofs.Markdown.Reading
import TypstPress.Proofs.Transform.Encodable

/-!
# What is read is accepted to the end

The reader makes well-formed documents, the program's own transforms keep them
so, and the compiler takes them, provided that the urls of their images have a
UTF-8 form. A tree that a caller builds may have others (`wellFormed_accepted`).
Those that are read have not: their urls come from tokens, and no transform of
the program's own brings one in.

None of the three looks at what the others rely on. That documents are settable
is all that holds them together: between reading and the finished source there is
no failure but one that a caller's own transform brings in.
-/

namespace TypstPress

namespace Transform

theorem run_settable {t : Transform} (ht : t.isBuiltIn = true) {document : Node}
    (h : document.isSettable = true) :
    (t.run document).failure = none ∧ (t.run document).tree.isSettable = true := by
  obtain ⟨hwell, hurls⟩ := Bool.and_eq_true_iff.1 h
  obtain ⟨hfailure, htree⟩ := run_wellFormed ht hwell
  exact ⟨hfailure, Bool.and_eq_true_iff.2 ⟨htree, run_encodable ht hurls⟩⟩

/-- Runs of the program's own transforms never fail either. -/
theorem runAll_settable {ts : List Transform} (hts : ∀ t ∈ ts, t.isBuiltIn = true)
    {document : Node} (h : document.isSettable = true) :
    (runAll ts document).failure = none ∧ (runAll ts document).tree.isSettable = true := by
  induction ts generalizing document with
  | nil => exact ⟨rfl, h⟩
  | cons t ts ih =>
      rw [List.forall_mem_cons] at hts
      obtain ⟨hfailure, htree⟩ := run_settable hts.1 h
      rw [runAll]
      simp only [hfailure]
      exact ih hts.2 htree

end Transform

namespace Pipeline

/-! ## Reading -/

theorem isLibrary_parseFailure (f : Failure) : (parseFailure f).isLibrary = true := by
  rw [parseFailure]
  split
  · assumption
  · rfl

/-- A document that cannot be read is reported as a failure of the library. -/
theorem isLibrary_of_document {access : Source.Access} {options : Option AnyOptions}
    {source : Source} {failure : Failure}
    (h : (document access options source).result = .error failure) :
    failure.isLibrary = true := by
  rw [document, Attempt.result_mapFailure] at h
  generalize Attempt.result _ = reading at h
  cases reading with
  | ok tree => cases h
  | error f =>
      cases h
      exact isLibrary_parseFailure f

theorem isSettable_parse {access : Source.Access} {options : MarkdownOptions}
    {source : Source} {tree : Node} (h : (parse access options source).result = .ok tree) :
    tree.isSettable = true := by
  obtain ⟨text, -, h⟩ := Attempt.exists_of_bind_ok h
  obtain ⟨⟨content, metadata⟩, -, h⟩ := Attempt.exists_of_bind_ok h
  obtain ⟨-, -, h⟩ := Attempt.exists_of_bind_ok h
  cases h
  exact Bool.and_eq_true_iff.2
    ⟨Markdown.isWellFormedDocument_read options content metadata,
      Markdown.encodable_documentNodes _ _ metadata⟩

/-- What is read as a document can be set. -/
theorem isSettable_document {access : Source.Access} {options : Option AnyOptions}
    {source : Source} {tree : Node} (h : (document access options source).result = .ok tree) :
    tree.isSettable = true := by
  rw [document, Attempt.result_mapFailure] at h
  generalize hreading : Attempt.result _ = reading at h
  cases reading with
  | error f => cases h
  | ok tree' =>
      cases h
      obtain ⟨known, -, hparse⟩ := Attempt.exists_of_bind_ok hreading
      exact isSettable_parse hparse

/-! ## Rewriting and compiling -/

/-- Rewriting with the program's own transforms and compiling always get to a
source. -/
theorem compile_rewritten {ts : List Transform} (hts : ∀ t ∈ ts, t.isBuiltIn = true)
    (options : TypstOptions) {document : Node} (h : document.isSettable = true) :
    ∃ tree compiled, (rewrite ts document).result = .ok tree ∧
      (Typst.compile options tree).result = .ok compiled := by
  obtain ⟨hfailure, htree⟩ := Transform.runAll_settable hts h
  obtain ⟨compiled, hcompiled⟩ := Typst.compile_settable options htree
  refine ⟨_, compiled, ?_, hcompiled⟩
  rw [rewrite]
  simp only [hfailure]

/-- A table of two cells, the second of which is merged into the first, in an
item of a list. -/
def nestedTokens : List Markdown.Token :=
  let cell (alignment : Option String) (text : String) : Markdown.Token :=
    .branch (.tableCell alignment) [.flat .text text]
  let head : Markdown.Token := .branch .tableHead [cell (some "left") "a", cell none "<"]
  [.branch (.list false none true) [.branch .listItem [.branch .table [head]]]]

/-- The document that is read from `nestedTokens`. -/
def nestedDocument : Node := .branch .document (Markdown.documentNodes nestedTokens []) []

end Pipeline

end TypstPress
