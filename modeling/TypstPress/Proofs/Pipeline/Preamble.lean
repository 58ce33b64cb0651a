import TypstPress.Proofs.Pipeline.Failures
import TypstPress.Proofs.Typst.WholeDocument

/-!
# A preamble is a prefix

The preamble is spliced in as a node, and a node could be felt anywhere: among
the definitions, in the numbering of footnotes, by whatever looks at neighbours.
It is not, for two reasons. The transform that splices it runs last, so no other
transform sees the node. And compiling sees it as the one fragment that it is:
it defines nothing, refers to nothing and stands in front of all the others
(`compile_insertPreamble`).

The argument needs no more of the tree than that it is a document. So it holds
of documents with inner ones, of trees that are not well formed and of those that
do not compile. A root of another kind is refused with a preamble and without
one, only by different parts of the library; callers promise of their own
transforms that they do not bring one about (`Transform.KeepsDocuments`).
-/

namespace TypstPress

open Node

/-! ## Compiling -/

namespace Typst

/-- A compiled document with Typst source in front. -/
def Compiled.withPrefix (preamble : String) (compiled : Compiled) : Compiled :=
  { compiled with source := preamble ++ compiled.source }

theorem Compiled.withPrefix_empty : Compiled.withPrefix "" = id := by
  funext compiled
  rw [Compiled.withPrefix, String.empty_append]
  rfl

variable (preamble : String) {document : Node}

/-- The preamble defines nothing. -/
theorem collect_insertPreamble (h : document.isDocument = true) :
    Definitions.collect (insertPreamble preamble document) = Definitions.collect document := by
  obtain ⟨cs, m, rfl⟩ := eq_document h
  rw [insertPreamble]
  split
  · rfl
  · rw [Definitions.collect_eq, Definitions.collect_eq]
    rfl

/-- The preamble is one fragment in front of all the others. -/
theorem fragments_insertPreamble (s : Setting) (h : document.isDocument = true)
    (hne : preamble.isEmpty = false) :
    fragments s (insertPreamble preamble document) = .source preamble :: fragments s document := by
  obtain ⟨cs, m, rfl⟩ := eq_document h
  rw [insertPreamble, hne, if_neg Bool.false_ne_true, fragments, fragments, fragmentsAll]
  rfl

theorem compile_insertPreamble (options : TypstOptions) (h : document.isDocument = true)
    (hne : preamble.isEmpty = false) :
    (compile options (insertPreamble preamble document)).result =
      (compile options document).result.map (Compiled.withPrefix preamble) := by
  have hsetting : settingOf options (insertPreamble preamble document) =
      settingOf options document := by
    rw [settingOf, settingOf, collect_insertPreamble preamble h]
  have hrun : runTree (settingOf options document) (insertPreamble preamble document) =
      { runTree (settingOf options document) document with
        source := preamble :: (runTree (settingOf options document) document).source } := by
    rw [runTree, fragments_insertPreamble preamble _ h hne]
    rfl
  rw [compile_eq options (Transform.isDocument_insertPreamble preamble h), compile_eq options h,
    hsetting, hrun]
  dsimp only
  cases (runTree (settingOf options document) document).defect with
  | some d => rfl
  | none =>
      rw [String.join_cons]
      rfl

end Typst

/-! ## The whole run -/

namespace Pipeline

open Typst (Compiled)

variable {access : Source.Access} {parserOptions compilerOptions : Option AnyOptions}
  {transforms : List Transform} {preamble : String} {source : Source} {tree : Node} {f : Failure}

theorem allTransforms_none : allTransforms transforms none = Transform.defaults ++ transforms := by
  rw [allTransforms, preambleTransforms, List.append_nil]

theorem allTransforms_some (hne : preamble.isEmpty = false) :
    allTransforms transforms (some preamble) =
      Transform.defaults ++ transforms ++ [.preamble preamble] := by
  rw [allTransforms, preambleTransforms, hne, if_neg Bool.false_ne_true]

theorem compile_withPrefix (htree : tree.isDocument = true) (hne : preamble.isEmpty = false) :
    (compile compilerOptions (insertPreamble preamble tree)).result =
      (compile compilerOptions tree).result.map (Compiled.withPrefix preamble) := by
  cases hoptions : AnyOptions.forTypst compilerOptions with
  | error f =>
      rw [compile_of_forTypst_error hoptions, compile_of_forTypst_error hoptions]
      rfl
  | ok options =>
      rw [compile, compile, Attempt.result_bind_of_ok (a := options) hoptions,
        Attempt.result_bind_of_ok (a := options) hoptions]
      exact Typst.compile_insertPreamble preamble options htree hne

theorem run_withPrefix_of_finished (hne : preamble.isEmpty = false)
    (hread : (reading access parserOptions source).result = .ok tree)
    (hdone : (Transform.runAll (Transform.defaults ++ transforms) tree).failure = none)
    (hroot : (Transform.runAll (Transform.defaults ++ transforms) tree).tree.isDocument = true) :
    (run access parserOptions compilerOptions transforms (some preamble) source).result =
      (run access parserOptions compilerOptions transforms none source).result.map
        (Compiled.withPrefix preamble) := by
  have hlast : Transform.runAll [.preamble preamble]
      (Transform.runAll (Transform.defaults ++ transforms) tree).tree =
        { tree := insertPreamble preamble
            (Transform.runAll (Transform.defaults ++ transforms) tree).tree
          log := [⟨.debug, "md2typst.api", "Applying transform: PreambleTransform"⟩] } := by
    rw [Transform.runAll, Transform.run_of_isDocument _ hroot]
    rfl
  have hall := Transform.runAll_append_of_finished hdone [.preamble preamble]
  rw [hlast, ← allTransforms_some hne] at hall
  rw [← allTransforms_none] at hdone hroot hall
  rw [run_of_finished hread hdone, run_of_finished hread (by rw [hall]), hall]
  exact compile_withPrefix hroot hne

/-- A root that is no document is refused, behind the preamble by the compiler
and in front of it by the transform. -/
theorem run_of_other_root (hne : preamble.isEmpty = false)
    (hread : (reading access parserOptions source).result = .ok tree)
    (hdone : (Transform.runAll (Transform.defaults ++ transforms) tree).failure = none)
    (hroot : (Transform.runAll (Transform.defaults ++ transforms) tree).tree.isDocument = false) :
    (∃ f, (run access parserOptions compilerOptions transforms (some preamble) source).result =
        .error f) ∧
      ∃ f, (run access parserOptions compilerOptions transforms none source).result = .error f := by
  constructor
  · obtain ⟨f, hf⟩ : ∃ f, ((Transform.preamble preamble).run
        (Transform.runAll (Transform.defaults ++ transforms) tree).tree).failure = some f := by
      rw [Transform.run, ensureDocument, hroot]
      exact ⟨_, rfl⟩
    obtain ⟨hfailed, -⟩ := Transform.runAll_of_failing hdone hf []
    rw [← allTransforms_some hne] at hfailed
    exact ⟨_, congrArg Attempt.result (run_of_failed hread hfailed)⟩
  · rw [← allTransforms_none] at hdone hroot
    rw [run_of_finished hread hdone]
    cases hoptions : AnyOptions.forTypst compilerOptions with
    | error f => exact ⟨f, compile_of_forTypst_error hoptions⟩
    | ok options =>
        rw [compile, Attempt.result_bind_of_ok (a := options) hoptions, Typst.compile, hroot]
        exact ⟨_, rfl⟩

theorem map_withPrefix_eq_ok {x : Except Failure Compiled} {s : String}
    {assets : List Typst.Asset} :
    x.map (Compiled.withPrefix preamble) = .ok ⟨preamble ++ s, assets⟩ ↔ x = .ok ⟨s, assets⟩ := by
  cases x with
  | error f => exact ⟨nofun, nofun⟩
  | ok compiled =>
      obtain ⟨source, found⟩ := compiled
      simp only [Except.map, Compiled.withPrefix, Except.ok.injEq, Compiled.mk.injEq,
        String.append_right_inj]

theorem map_withPrefix_eq_error {x : Except Failure Compiled} :
    x.map (Compiled.withPrefix preamble) = .error f ↔ x = .error f := by
  cases x with
  | error g => rfl
  | ok compiled => exact ⟨nofun, nofun⟩

/-- With a preamble a run gives what it gives without one, behind the preamble.
Only a root that is no document sets the two apart, and then both are refused. -/
theorem run_withPrefix (access : Source.Access) (parserOptions compilerOptions : Option AnyOptions)
    (transforms : List Transform) (preamble : String) (source : Source) :
    (run access parserOptions compilerOptions transforms (some preamble) source).result =
        (run access parserOptions compilerOptions transforms none source).result.map
          (Compiled.withPrefix preamble) ∨
      ((∃ f, (run access parserOptions compilerOptions transforms (some preamble) source).result =
          .error f) ∧
        ∃ f, (run access parserOptions compilerOptions transforms none source).result =
          .error f) ∧
        ∃ tree, tree.isDocument = true ∧
          (Transform.runAll (Transform.defaults ++ transforms) tree).failure = none ∧
          (Transform.runAll (Transform.defaults ++ transforms) tree).tree.isDocument = false := by
  cases hempty : preamble.isEmpty with
  | true =>
      -- an empty preamble is no transform at all
      left
      cases String.isEmpty_iff.1 hempty
      rw [Compiled.withPrefix_empty, Except.map_id]
      rfl
  | false =>
      cases hread : (reading access parserOptions source).result with
      | error f =>
          left
          rw [run_of_unread hread, run_of_unread hread]
          rfl
      | ok tree =>
          cases hdone : (Transform.runAll (Transform.defaults ++ transforms) tree).failure with
          | some f =>
              left
              have hall := Transform.runAll_append_of_failed hdone [.preamble preamble]
              rw [← allTransforms_some hempty] at hall
              have hfail := hall ▸ hdone
              rw [← allTransforms_none] at hdone
              rw [run_of_failed hread hfail, run_of_failed hread hdone]
              rfl
          | none =>
              cases hroot : (Transform.runAll (Transform.defaults ++ transforms)
                  tree).tree.isDocument with
              | true => exact .inl (run_withPrefix_of_finished hempty hread hdone hroot)
              | false =>
                  have htree := Node.isDocument_of_isSettable (isSettable_of_reading hread)
                  exact .inr ⟨run_of_other_root hempty hread hdone hroot, tree, htree, hdone, hroot⟩

/-- A run with a preamble gives the preamble followed by some source, and a list
of images, exactly when the run without it gives that source and the same images;
and it fails exactly when the other does, with the same failure if the caller's
own transforms keep documents documents. -/
theorem run_preamble (access : Source.Access) (parserOptions compilerOptions : Option AnyOptions)
    (transforms : List Transform) (preamble : String) (source : Source) :
    (∀ s assets,
      (run access parserOptions compilerOptions transforms (some preamble) source).result =
          .ok ⟨preamble ++ s, assets⟩ ↔
        (run access parserOptions compilerOptions transforms none source).result =
          .ok ⟨s, assets⟩) ∧
    ((∃ f, (run access parserOptions compilerOptions transforms (some preamble) source).result =
        .error f) ↔
      ∃ f, (run access parserOptions compilerOptions transforms none source).result = .error f) ∧
    ((∀ name rewrite, .custom name rewrite ∈ transforms → Transform.KeepsDocuments rewrite) →
      ∀ f,
        (run access parserOptions compilerOptions transforms (some preamble) source).result =
            .error f ↔
          (run access parserOptions compilerOptions transforms none source).result = .error f) := by
  rcases run_withPrefix access parserOptions compilerOptions transforms preamble source with
    heq | ⟨⟨⟨f, hf⟩, g, hg⟩, tree, htree, hdone, hroot⟩
  · rw [heq]
    exact ⟨fun s assets => map_withPrefix_eq_ok, exists_congr fun f => map_withPrefix_eq_error,
      fun _ f => map_withPrefix_eq_error⟩
  · rw [hf, hg]
    refine ⟨fun s assets => ⟨nofun, nofun⟩, ⟨fun _ => ⟨g, rfl⟩, fun _ => ⟨f, rfl⟩⟩, ?_⟩
    intro hts
    have hkept : (Transform.runAll (Transform.defaults ++ transforms) tree).tree.isDocument =
        true := by
      refine Transform.isDocument_runAll (fun name rewrite hmem => hts name rewrite ?_) htree hdone
      rcases List.mem_append.1 hmem with hmem | hmem
      · simp [Transform.defaults] at hmem
      · exact hmem
    rw [hroot] at hkept
    cases hkept

/-- Replacing directives, and a rewriting of the caller's own that puts a text in
front of everything. -/
def stampedTransforms : List Transform :=
  [.directives DirectiveMarkup.slideControls,
    .custom "Stamp" fun document =>
      { tree := .branch .document (.ofText "x" :: document.children) document.metadata }]

/-- What "b" is compiled to with these. -/
def stampedSource : String := "#\"x\"#par[#\"b\"]\n\n#hide(place(top+left, [\n]))\n"

theorem run_preamble_of_stamped :
    (∀ name rewrite, .custom name rewrite ∈ stampedTransforms →
        Transform.KeepsDocuments rewrite) ∧
      (run (.withoutFiles Charset.noDetector) none none stampedTransforms (some "#let b = 1\n")
        (.text "b")).result = .ok ⟨"#let b = 1\n" ++ stampedSource, []⟩ ∧
      (run (.withoutFiles Charset.noDetector) none (some .plainRenderer) stampedTransforms
        (some "#let b = 1\n") (.text "b")).result =
          .error (.wrongOptions "typst" "TypstRendererOptions" "BaseRendererOptions") := by
  have hts : ∀ name rewrite, .custom name rewrite ∈ stampedTransforms →
      Transform.KeepsDocuments rewrite := by
    intro name rewrite hmem document _ _
    simp only [stampedTransforms, List.mem_cons, reduceCtorEq, Transform.custom.injEq,
      List.not_mem_nil, false_or, or_false] at hmem
    rw [hmem.2]
    rfl
  have hread := reading_text (.withoutFiles Charset.noDetector)
    (by decide : FrontMatter.split? "b".toList = none)
  have hdone : (Transform.runAll (allTransforms stampedTransforms none)
      (bodyDocument {} "b" [])).failure = none := rfl
  refine ⟨hts, ?_, ?_⟩
  · obtain ⟨hok, -, -⟩ := run_preamble (.withoutFiles Charset.noDetector) none none
      stampedTransforms "#let b = 1\n" (.text "b")
    rw [hok, run_of_finished hread hdone]
    with_unfolding_all rfl
  · obtain ⟨-, -, herror⟩ := run_preamble (.withoutFiles Charset.noDetector) none
      (some .plainRenderer) stampedTransforms "#let b = 1\n" (.text "b")
    rw [herror hts, run_of_finished hread hdone]
    rfl

end Pipeline

end TypstPress
