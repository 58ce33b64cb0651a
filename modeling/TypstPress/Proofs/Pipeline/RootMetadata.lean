import TypstPress.Proofs.Pipeline.Failures
import TypstPress.Proofs.Typst.WholeDocument

/-!
# The metadata of a document

Front matter becomes the metadata of the root and goes no further. Every
transform of the program's own takes it along unread, and the compiler does not
look at it; so documents that are the same apart from it compile to the same
(`compiled_of_apart`). Transforms of the caller's own may well read it, to set a
title for instance, and are covered as long as they do not (`IgnoresMetadata`).
-/

namespace TypstPress

open Node

/-- Two trees that are the same, apart from the metadata of their roots. -/
inductive Node.SameApart : Node → Node → Prop
  | leaf (l : Leaf) (m m' : Metadata) : SameApart (.leaf l m) (.leaf l m')
  | branch (k : Branch) (cs : List Node) (m m' : Metadata) :
      SameApart (.branch k cs m) (.branch k cs m')

variable {n n' : Node}

theorem Node.SameApart.isDocument_eq (h : SameApart n n') : n.isDocument = n'.isDocument := by
  cases h with
  | leaf => rfl
  | branch k => cases k <;> rfl

theorem Node.SameApart.kindName_eq (h : SameApart n n') : n.kindName = n'.kindName := by
  cases h <;> rfl

/-- Whether a rewriting does not read the metadata of the root, so that it makes
no difference to how the rewriting ends. -/
def IgnoresMetadata (rewrite : Node → Rewrite) : Prop :=
  ∀ n n', SameApart n n' → (rewrite n).failure = (rewrite n').failure ∧
    SameApart (rewrite n).tree (rewrite n').tree

/-! ## The program's own transforms -/

theorem ImageAttributes.attach_apart (h : SameApart n n') :
    (attach n).refusal = (attach n').refusal ∧ SameApart (attach n).tree (attach n').tree := by
  cases h with
  | leaf l m m' => exact ⟨rfl, .leaf l m m'⟩
  | branch k cs m m' =>
      rw [attach, attach]
      dsimp only
      split
      · split
        · exact ⟨rfl, .branch ..⟩
        · exact ⟨rfl, .branch ..⟩
      · exact ⟨rfl, .branch ..⟩

theorem ImageAttributes.attachTree_apart (h : SameApart n n') :
    (attachTree n).refusal = (attachTree n').refusal ∧
      SameApart (attachTree n).tree (attachTree n').tree := by
  cases h with
  | leaf l m m' =>
      rw [attachTree, attachTree]
      exact ⟨rfl, .leaf l m m'⟩
  | branch k cs m m' =>
      obtain ⟨hrefusal, htree⟩ := attach_apart (.branch k cs m m')
      rw [attachTree, attachTree]
      simp only [← hrefusal]
      cases (attach (.branch k cs m)).refusal with
      | some kindName => exact ⟨hrefusal, htree⟩
      | none => exact ⟨rfl, (attach_apart (.branch k _ m m')).2⟩

theorem TableSpans.mergeTree_apart (h : SameApart n n') :
    (mergeTree n).failure = (mergeTree n').failure ∧
      SameApart (mergeTree n).tree (mergeTree n').tree := by
  cases h with
  | leaf l m m' =>
      rw [mergeTree, mergeTree]
      exact ⟨rfl, .leaf l m m'⟩
  | branch k cs m m' =>
      unfold mergeTree
      split
      · obtain ⟨here, log⟩ := mergeTable cs
        dsimp only
        cases here.failure with
        | some f => exact ⟨rfl, .branch ..⟩
        | none => exact ⟨rfl, .branch ..⟩
      · exact ⟨rfl, .branch ..⟩

theorem DirectiveMarkup.replaceBelow_apart (markup : List (String × String))
    (h : SameApart n n') :
    (replaceBelow markup n).refusal = (replaceBelow markup n').refusal ∧
      SameApart (replaceBelow markup n).tree (replaceBelow markup n').tree := by
  cases h with
  | leaf l m m' =>
      rw [replaceBelow, replaceBelow]
      exact ⟨rfl, .leaf l m m'⟩
  | branch k cs m m' =>
      rw [replaceBelow, replaceBelow]
      dsimp only
      split
      · exact ⟨rfl, .branch ..⟩
      · exact ⟨rfl, .branch ..⟩

theorem insertPreamble_apart (source : String) (h : SameApart n n') :
    SameApart (insertPreamble source n) (insertPreamble source n') := by
  cases h with
  | leaf l m m' => exact .leaf l m m'
  | branch k cs m m' =>
      rw [insertPreamble, insertPreamble]
      split
      · exact .branch ..
      · exact .branch ..

namespace Transform

theorem ignoresMetadata_of_isBuiltIn {t : Transform} (ht : t.isBuiltIn = true) :
    IgnoresMetadata t.apply := by
  intro n n' h
  cases t with
  | imageAttributes =>
      obtain ⟨hrefusal, htree⟩ := ImageAttributes.attachTree_apart h
      rw [apply, apply, ImageAttributes.apply, ImageAttributes.apply, ← hrefusal]
      cases (ImageAttributes.attachTree n).refusal with
      | some kindName => exact ⟨rfl, htree⟩
      | none => exact ⟨rfl, htree⟩
  | tableSpans => exact TableSpans.mergeTree_apart h
  | preamble source => exact ⟨rfl, insertPreamble_apart source h⟩
  | directives markup =>
      obtain ⟨hrefusal, htree⟩ := DirectiveMarkup.replaceBelow_apart markup h
      rw [apply, apply, DirectiveMarkup.apply, DirectiveMarkup.apply, ← hrefusal]
      cases (DirectiveMarkup.replaceBelow markup n).refusal with
      | some kindName => exact ⟨rfl, htree⟩
      | none => exact ⟨rfl, htree⟩
  | custom name rewrite => cases ht

theorem ignoresMetadata_run {t : Transform} (ht : IgnoresMetadata t.apply) :
    IgnoresMetadata t.run := by
  intro n n' h
  rw [run, run, ensureDocument, ensureDocument, h.isDocument_eq, h.kindName_eq]
  cases n'.isDocument with
  | true => exact ht n n' h
  | false => exact ⟨rfl, h⟩

theorem ignoresMetadata_runAll {ts : List Transform}
    (hts : ∀ t ∈ ts, IgnoresMetadata t.apply) : IgnoresMetadata (runAll ts) := by
  induction ts with
  | nil => exact fun n n' h => ⟨rfl, h⟩
  | cons t ts ih =>
      rw [List.forall_mem_cons] at hts
      intro n n' h
      obtain ⟨hfailure, htree⟩ := ignoresMetadata_run hts.1 n n' h
      obtain ⟨hfailure', htree'⟩ := ih hts.2 _ _ htree
      rw [runAll, runAll, ← hfailure]
      cases (t.run n).failure with
      | some f => exact ⟨rfl, htree⟩
      | none => exact ⟨hfailure', htree'⟩

end Transform

/-! ## Compiling -/

theorem Definitions.collect_of_apart (h : SameApart n n') : collect n = collect n' := by
  cases h with
  | leaf l m m' =>
      rw [collect_eq, collect_eq, preorder, preorder]
      cases l <;> rfl
  | branch k cs m m' =>
      rw [collect_eq, collect_eq, preorder, preorder]
      cases k <;> rfl

theorem Typst.fragments_of_apart (s : Setting) (h : SameApart n n') :
    fragments s n = fragments s n' := by
  cases h with
  | leaf l m m' => cases l <;> rfl
  | branch k cs m m' => cases k <;> rfl

theorem Typst.compile_of_apart (options : TypstOptions) (h : SameApart n n') :
    (Typst.compile options n).result = (Typst.compile options n').result := by
  have hsame := h.isDocument_eq
  cases hdocument : n.isDocument with
  | true =>
      have hsetting : settingOf options n = settingOf options n' := by
        rw [settingOf, settingOf, Definitions.collect_of_apart h]
      have hrun : runTree (settingOf options n) n = runTree (settingOf options n') n' := by
        rw [runTree, runTree, hsetting, fragments_of_apart _ h]
      rw [compile_eq options hdocument, compile_eq options (hsame ▸ hdocument), hrun]
  | false =>
      rw [compile, compile, if_neg (by simp [hdocument]), if_neg (by simp [← hsame, hdocument]),
        h.kindName_eq]

namespace Pipeline

/-- Documents that are the same apart from their metadata compile to the same,
with any transforms that do not read it. -/
theorem compiled_of_apart {ts : List Transform}
    (hts : ∀ t ∈ ts, IgnoresMetadata t.apply)
    (compilerOptions : Option AnyOptions) (h : SameApart n n') :
    ((rewrite ts n).result >>= fun tree => (compile compilerOptions tree).result) =
      ((rewrite ts n').result >>= fun tree => (compile compilerOptions tree).result) := by
  obtain ⟨hfailure, htree⟩ := Transform.ignoresMetadata_runAll hts n n' h
  cases hfailed : (Transform.runAll ts n).failure with
  | some f => rw [rewrite_of_failed hfailed, rewrite_of_failed (hfailure ▸ hfailed)]
  | none =>
      rw [rewrite_of_finished hfailed, rewrite_of_finished (hfailure ▸ hfailed)]
      show (compile compilerOptions _).result = (compile compilerOptions _).result
      rw [compile, compile, Attempt.result_bind, Attempt.result_bind]
      simp only [Typst.compile_of_apart _ htree]

end Pipeline

end TypstPress
