import TypstPress.Pipeline
import TypstPress.Proofs.Attempt
import TypstPress.Proofs.Transform.Essence
import TypstPress.Proofs.Typst.Essence

/-!
# What never shows

Titles, metadata, the labels of definitions, tight lists, header rows, alignments
of cells and attributes that are not passed on stand right beside fields that are
consulted. They never show, whatever transforms are run before a document is
compiled: the transforms take documents of one essence to documents of one
essence, and these compile to the same (`compile_rewritten_congr`).

The label of a reference is shown when there is no definition, and that is a
matter of the document as it is compiled. A directive that is replaced takes what
it holds with it, a definition too, so that a reference that was resolved before
is not any more and shows its label (`label_of_dropped_definition`).
-/

namespace TypstPress.Pipeline

open Node

/-- Documents that differ only in fields that their essence leaves out compile to
the same after any of the program's own transforms, with the same records, or
fail in the same way. Labels may differ where the identifier still has a
definition in what the transforms arrive at. -/
theorem compile_rewritten_congr {ts : List Transform} (hts : ∀ t ∈ ts, t.isBuiltIn = true)
    (options : TypstOptions) {known : String → Bool} {document document' : Node}
    (h : document.essence options.imageAttributes known =
      document'.essence options.imageAttributes known)
    (hknown : ∀ tree, (rewrite ts document).result = .ok tree →
      ∀ identifier, known identifier = true → (tree.firstUrl? identifier).isSome = true) :
    (rewrite ts document >>= Typst.compile options) =
      (rewrite ts document' >>= Typst.compile options) := by
  have hrewritten := Transform.runAll_congr hts h
  have htree := congrArg Rewrite.tree hrewritten
  have hlog := congrArg Rewrite.log hrewritten
  have hfailure := congrArg Rewrite.failure hrewritten
  simp only [Rewrite.essence] at htree hlog hfailure
  show (rewrite ts document).andThen _ = (rewrite ts document').andThen _
  cases hf : (Transform.runAll ts document).failure with
  | some f =>
      have hf' := hfailure.symm.trans hf
      simp only [rewrite, Attempt.andThen, hf, hf', hlog]
  | none =>
      have hf' := hfailure.symm.trans hf
      have hresult : (rewrite ts document).result =
          .ok (Transform.runAll ts document).tree := by
        simp only [rewrite, hf]
      have hdefined := hknown _ hresult
      have hdefined' : ∀ identifier, known identifier = true →
          ((Transform.runAll ts document').tree.firstUrl? identifier).isSome = true := by
        intro identifier hidentifier
        rw [← firstUrl?_essence, ← htree, firstUrl?_essence]
        exact hdefined identifier hidentifier
      have hcompiled : Typst.compile options (Transform.runAll ts document).tree =
          Typst.compile options (Transform.runAll ts document').tree := by
        rw [← Typst.compile_essence options hdefined, htree,
          Typst.compile_essence options hdefined']
      simp only [rewrite, Attempt.andThen, hf, hf', hlog, hcompiled]

/-- A document with a text in every field that the essence leaves out. -/
def decoratedDocument (text : String) : Node :=
  .branch .document
    [.branch (.list false none (text == "x"))
        [.ofBranch .listItem
          [.ofLeaf (.image "u" "" (some text) [("class", some text), ("width", some "1pt")])]] [],
      .ofBranch (.table true [])
        [.ofBranch (.tableRow (text == "x"))
          [.ofBranch (.tableCell 1 1 false (some text))
              [.ofBranch (.linkReference "a" (some text) .full) [], .ofBranch (.link "v" text) []],
            .ofBranch (.tableCell 1 1 false none) [.ofText "<"]]],
      .ofBranch (.leafDirective "pause" [("id", some text)]) [],
      .ofBranch (.containerDirective "figure" [("caption", some "c"), ("id", some text)])
        [.ofBranch (.textDirective "kbd" [("id", some text)]) []],
      .ofLeaf (.definition "a" "w" (some text) (some text))]
    [(.text text, .null)]

theorem compile_rewritten_congr_of_decorated :
    let ts : List Transform := [.directives DirectiveMarkup.slideControls, .preamble "#p\n",
      .tableSpans, .imageAttributes]
    (∀ t ∈ ts, t.isBuiltIn = true) ∧
      (decoratedDocument "x").essence ({} : TypstOptions).imageAttributes (· == "a") =
        (decoratedDocument "y").essence ({} : TypstOptions).imageAttributes (· == "a") ∧
      (∀ tree, (rewrite ts (decoratedDocument "x")).result = .ok tree →
        ∀ identifier, (identifier == "a") = true → (tree.firstUrl? identifier).isSome = true) ∧
      (rewrite ts (decoratedDocument "x") >>= Typst.compile {}) =
        (rewrite ts (decoratedDocument "y") >>= Typst.compile {}) := by
  intro ts
  have hts : ∀ t ∈ ts, t.isBuiltIn = true := by decide
  have hessence : (decoratedDocument "x").essence ({} : TypstOptions).imageAttributes (· == "a") =
      (decoratedDocument "y").essence ({} : TypstOptions).imageAttributes (· == "a") := rfl
  have hknown : ∀ tree, (rewrite ts (decoratedDocument "x")).result = .ok tree →
      ∀ identifier, (identifier == "a") = true → (tree.firstUrl? identifier).isSome = true := by
    intro tree htree identifier hidentifier
    rw [beq_iff_eq.1 hidentifier]
    have hrun : (rewrite ts (decoratedDocument "x")).result =
        .ok (Transform.runAll ts (decoratedDocument "x")).tree := rfl
    obtain rfl := Except.ok.inj (hrun.symm.trans htree)
    rfl
  exact ⟨hts, hessence, hknown, compile_rewritten_congr hts {} hessence hknown⟩

/-- A reference behind a node. -/
def labelledDocument (first : Node) (label : String) : Node :=
  .ofBranch .document
    [first, .ofBranch .paragraph [.ofBranch (.linkReference "a" (some label) .full) []]]

/-- A reference whose definition stands inside a directive. -/
def pausedDocument (label : String) : Node :=
  labelledDocument
    (.ofBranch (.leafDirective "pause" []) [.ofLeaf (.definition "a" "u" none none)]) label

/-- The label of a reference that is resolved in a document shows after all, when
its definition goes with the directive it stands in. -/
theorem label_of_dropped_definition :
    (pausedDocument "X").isWholeDocument = true ∧ (pausedDocument "Y").isWholeDocument = true ∧
      (pausedDocument "X").essence ({} : TypstOptions).imageAttributes
          (fun identifier => ((pausedDocument "X").firstUrl? identifier).isSome) =
        (pausedDocument "Y").essence ({} : TypstOptions).imageAttributes
          (fun identifier => ((pausedDocument "X").firstUrl? identifier).isSome) ∧
      (rewrite [.directives DirectiveMarkup.slideControls] (pausedDocument "X") >>=
          Typst.compile {}).result ≠
        (rewrite [.directives DirectiveMarkup.slideControls] (pausedDocument "Y") >>=
          Typst.compile {}).result := by
  -- the definition goes with the directive, and the reference is left without one
  have hrewritten : ∀ label, (rewrite [.directives DirectiveMarkup.slideControls]
      (pausedDocument label)).result = .ok (labelledDocument (.ofTypst "#pause\n") label) :=
    fun _ => rfl
  have hfragments : ∀ label,
      Typst.compiledFragments {} (labelledDocument (.ofTypst "#pause\n") label) =
        [.source "#pause\n", .source "#par[", Typst.missingDefinition "Link reference" "a",
          .source "#\"[\"", .source (Typst.referenceEnd .full (some label) "a"), .source "]\n",
          .source "\n", .source "#hide(place(top+left, [\n", .source "]))\n"] := by
    intro label
    rw [Typst.compiledFragments, Typst.settingOf, Definitions.collect_eq]
    rfl
  have hsource : ∀ label, (rewrite [.directives DirectiveMarkup.slideControls]
      (pausedDocument label) >>= Typst.compile {}).result = .ok
        { source := String.join ["#pause\n", "#par[", "#\"[\"",
            Typst.referenceEnd .full (some label) "a", "]\n", "\n",
            "#hide(place(top+left, [\n", "]))\n"]
          assets := [] } := by
    intro label
    rw [Attempt.result_bind_of_ok (hrewritten label), Typst.compile_result {} rfl,
      hfragments label]
    rfl
  refine ⟨by decide, by decide, rfl, ?_⟩
  rw [hsource, hsource]
  intro heq
  injection heq with heq
  injection heq with heq
  exact absurd heq (by decide)

end TypstPress.Pipeline
