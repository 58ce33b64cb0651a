import TypstPress.Proofs.FrontMatter
import TypstPress.Proofs.Pipeline
import TypstPress.Proofs.Transform.Run

/-!
# Which failures leave the pipeline

Whatever a source is and whoever wrote the transforms, what leaves the pipeline
is a result or a failure of the library. The reader and the transforms stand
behind a guard each: what is the library's own passes it unchanged, and anything
else is wrapped, with the original as its cause. The compiler stands behind none.
It needs none, because documents are settable when they are read and stay so up to
the first transform that fails, and behind that one nothing is run any more
(`failures_reported`).
-/

namespace TypstPress

namespace Transform

/-- Whether the transform fails on every document. -/
def AlwaysFails (t : Transform) : Prop := ∀ document, (t.apply document).failure ≠ none

theorem isLibrary_report (t : Transform) (f : Failure) : (t.report f).isLibrary = true := by
  rw [report]
  split
  · assumption
  · rfl

/-- A row in which every transform is the program's own or fails leaves a
settable document, if it finishes at all. -/
theorem isSettable_runAll {ts : List Transform}
    (hts : ∀ t ∈ ts, t.isBuiltIn = true ∨ t.AlwaysFails) {document : Node}
    (h : document.isSettable = true) (hdone : (runAll ts document).failure = none) :
    (runAll ts document).tree.isSettable = true := by
  induction ts generalizing document with
  | nil => exact h
  | cons t ts ih =>
      rw [List.forall_mem_cons] at hts
      rw [runAll] at hdone ⊢
      cases hfirst : (t.run document).failure with
      | some g =>
          rw [hfirst] at hdone
          cases hdone
      | none =>
          rw [hfirst] at hdone
          rcases hts.1 with hbuiltIn | hfails
          · exact ih hts.2 (run_settable hbuiltIn h).2 hdone
          · have hroot := Node.isDocument_of_isSettable h
            rw [run_of_isDocument t hroot] at hfirst
            exact absurd hfirst (hfails document)

end Transform

namespace Pipeline

variable {access : Source.Access} {parserOptions compilerOptions : Option AnyOptions}
  {transforms : List Transform} {preamble : Option String} {source : Source} {tree : Node}
  {f : Failure}

/-- All transforms of a run, in order. -/
def allTransforms (transforms : List Transform) (preamble : Option String) : List Transform :=
  Transform.defaults ++ transforms ++ preambleTransforms preamble

theorem isBuiltIn_of_mem_preambleTransforms {t : Transform}
    (h : t ∈ preambleTransforms preamble) : t.isBuiltIn = true := by
  unfold preambleTransforms at h
  split at h
  · split at h
    · cases h
    · rw [List.mem_singleton.1 h]
      rfl
  · cases h

/-- What the transforms given have in common, all transforms of a run have. -/
theorem forall_mem_allTransforms {P : Transform → Prop}
    (hbuiltIn : ∀ t : Transform, t.isBuiltIn = true → P t) (h : ∀ t ∈ transforms, P t) :
    ∀ t ∈ allTransforms transforms preamble, P t := by
  intro t ht
  rcases List.mem_append.1 ht with ht | ht
  · rcases List.mem_append.1 ht with ht | ht
    · exact hbuiltIn t ((by decide : ∀ t ∈ Transform.defaults, t.isBuiltIn = true) t ht)
    · exact h t ht
  · exact hbuiltIn t (isBuiltIn_of_mem_preambleTransforms ht)

/-! ## The stages of a run -/

/-- Reading a source as a document, with nothing around it that wraps failures. -/
def reading (access : Source.Access) (options : Option AnyOptions) (source : Source) :
    Attempt Node := do
  let options ← .ofExcept (AnyOptions.forMarkdown options)
  parse access options source

theorem document_eq :
    document access parserOptions source =
      (reading access parserOptions source).mapFailure parseFailure :=
  rfl

theorem run_of_unread (h : (reading access parserOptions source).result = .error f) :
    (run access parserOptions compilerOptions transforms preamble source).result =
      .error (parseFailure f) := by
  have hdocument : (document access parserOptions source).result = .error (parseFailure f) := by
    rw [document_eq, Attempt.result_mapFailure, h]
    rfl
  rw [run, Attempt.result_bind, hdocument]
  rfl

theorem run_of_read (h : (reading access parserOptions source).result = .ok tree) :
    (run access parserOptions compilerOptions transforms preamble source).result =
      (rewrite (allTransforms transforms preamble) tree).result >>= fun tree =>
        (compile compilerOptions tree).result := by
  have hdocument : (document access parserOptions source).result = .ok tree :=
    Attempt.result_mapFailure_of_ok h parseFailure
  rw [run, Attempt.result_bind_of_ok hdocument, Attempt.result_bind, allTransforms]

theorem rewrite_of_failed {ts : List Transform}
    (h : (Transform.runAll ts tree).failure = some f) :
    rewrite ts tree = { result := .error f, log := (Transform.runAll ts tree).log } := by
  rw [rewrite]
  simp only [h]

theorem rewrite_of_finished {ts : List Transform}
    (h : (Transform.runAll ts tree).failure = none) :
    (rewrite ts tree).result = .ok (Transform.runAll ts tree).tree := by
  rw [rewrite]
  simp only [h]

/-- A run whose transforms fail ends there. -/
theorem run_of_failed (h : (reading access parserOptions source).result = .ok tree)
    (hfail : (Transform.runAll (allTransforms transforms preamble) tree).failure = some f) :
    run access parserOptions compilerOptions transforms preamble source =
      { result := .error f
        log := (document access parserOptions source).log ++
          (Transform.runAll (allTransforms transforms preamble) tree).log } := by
  have hdocument : (document access parserOptions source).result = .ok tree :=
    Attempt.result_mapFailure_of_ok h parseFailure
  have hrewrite := rewrite_of_failed hfail
  rw [run]
  simp only [bind, Attempt.andThen, hdocument]
  rw [← allTransforms, hrewrite]

theorem run_of_finished (h : (reading access parserOptions source).result = .ok tree)
    (hdone : (Transform.runAll (allTransforms transforms preamble) tree).failure = none) :
    (run access parserOptions compilerOptions transforms preamble source).result =
      (compile compilerOptions
        (Transform.runAll (allTransforms transforms preamble) tree).tree).result := by
  rw [run_of_read h, rewrite_of_finished hdone]
  rfl

/-! ## What comes out -/

theorem isLibrary_of_forTypst (h : AnyOptions.forTypst compilerOptions = .error f) :
    f.isLibrary = true := by
  unfold AnyOptions.forTypst at h
  split at h
  · cases h
  · cases h
  · cases h
    rfl

theorem compile_of_forTypst_error (h : AnyOptions.forTypst compilerOptions = .error f) :
    (compile compilerOptions tree).result = .error f := by
  rw [compile, Attempt.result_bind, h]
  rfl

/-- Settable documents compile with options of the right kind. -/
theorem exists_compiled {options : TypstOptions}
    (h : AnyOptions.forTypst compilerOptions = .ok options)
    (htree : tree.isSettable = true) :
    ∃ compiled, (compile compilerOptions tree).result = .ok compiled := by
  obtain ⟨compiled, hcompiled⟩ := Typst.compile_settable options htree
  refine ⟨compiled, ?_⟩
  rw [compile, Attempt.result_bind_of_ok (a := options) h]
  exact hcompiled

theorem isSettable_of_reading
    (h : (reading access parserOptions source).result = .ok tree) :
    tree.isSettable = true := by
  obtain ⟨options, -, hparse⟩ := Attempt.exists_of_bind_ok h
  exact isSettable_parse hparse

/-- Compiling what transforms that are the program's own or fail have left is
refused for options of the wrong kind only. -/
theorem compile_of_finished
    (hts : ∀ t ∈ transforms, t.isBuiltIn = true ∨ t.AlwaysFails)
    (h : (reading access parserOptions source).result = .ok tree)
    (hdone : (Transform.runAll (allTransforms transforms preamble) tree).failure = none) :
    (∀ f, AnyOptions.forTypst compilerOptions = .error f →
      (run access parserOptions compilerOptions transforms preamble source).result = .error f) ∧
    ∀ options, AnyOptions.forTypst compilerOptions = .ok options →
      ∃ compiled, (run access parserOptions compilerOptions transforms preamble source).result =
        .ok compiled := by
  rw [run_of_finished h hdone]
  refine ⟨fun f hoptions => compile_of_forTypst_error hoptions, fun options hoptions => ?_⟩
  refine exists_compiled hoptions ?_
  exact Transform.isSettable_runAll (forall_mem_allTransforms (fun t => .inl) hts)
    (isSettable_of_reading h) hdone

/-- What leaves a run is a result or a failure of the library, provided that
every transform is the program's own or fails. A failure of the reader comes out
as a failure to parse and that of a transform, the first that fails, as a failure
of the transform by name; both carry the original, and both are passed on
unchanged if they are the library's own. Nothing is run behind a transform that
failed, and behind transforms that finish only options of the wrong kind are
refused. -/
theorem failures_reported (access : Source.Access)
    (parserOptions compilerOptions : Option AnyOptions) {transforms : List Transform}
    (hts : ∀ t ∈ transforms, t.isBuiltIn = true ∨ t.AlwaysFails) (preamble : Option String)
    (source : Source) :
    (∀ f, (run access parserOptions compilerOptions transforms preamble source).result =
      .error f → f.isLibrary = true) ∧
    (∀ f, (reading access parserOptions source).result = .error f →
      (run access parserOptions compilerOptions transforms preamble source).result = .error
        (if f.isLibrary then f
         else .parsing ("AST conversion failed: " ++ f.mention) (some "ast_conversion")
          (some f))) ∧
    ∀ tree, (reading access parserOptions source).result = .ok tree →
      (∀ before t after f,
        Transform.defaults ++ transforms ++ preambleTransforms preamble = before ++ t :: after →
        (Transform.runAll before tree).failure = none →
        (t.run (Transform.runAll before tree).tree).failure = some f →
        run access parserOptions compilerOptions transforms preamble source =
          { result := .error
              (if f.isLibrary then f
               else .transform ("Transform " ++ t.name ++ " failed: " ++ f.mention)
                (some t.name) (some f))
            log := (document access parserOptions source).log ++
              (Transform.runAll (before ++ [t]) tree).log }) ∧
      ((∀ t ∈ transforms, t.isBuiltIn = true) →
        (∀ f, AnyOptions.forTypst compilerOptions = .error f →
          (run access parserOptions compilerOptions transforms preamble source).result =
            .error f) ∧
        ∀ options, AnyOptions.forTypst compilerOptions = .ok options →
          ∃ compiled,
            (run access parserOptions compilerOptions transforms preamble source).result =
              .ok compiled) := by
  refine ⟨fun f hf => ?_, fun f hf => run_of_unread hf, fun tree hread => ⟨?_, fun hbuiltIn => ?_⟩⟩
  · cases hread : (reading access parserOptions source).result with
    | error g =>
        rw [run_of_unread hread] at hf
        cases hf
        exact isLibrary_parseFailure g
    | ok tree =>
        cases hdone : (Transform.runAll (allTransforms transforms preamble) tree).failure with
        | some g =>
            rw [run_of_failed hread hdone] at hf
            cases hf
            obtain ⟨before, t, after, g, -, -, -, rfl⟩ := Transform.exists_failing hdone
            exact t.isLibrary_report g
        | none =>
            obtain ⟨hrefused, hcompiled⟩ := @compile_of_finished access parserOptions
              compilerOptions transforms preamble source tree hts hread hdone
            cases hoptions : AnyOptions.forTypst compilerOptions with
            | error g =>
                rw [hrefused g hoptions] at hf
                cases hf
                exact isLibrary_of_forTypst hoptions
            | ok options =>
                obtain ⟨compiled, hok⟩ := hcompiled options hoptions
                rw [hok] at hf
                cases hf
  · intro before t after f hall hbefore hfail
    obtain ⟨hfailed, hlater⟩ := Transform.runAll_of_failing hbefore hfail after
    rw [← hall, ← allTransforms] at hfailed hlater
    rw [run_of_failed hread hfailed, hlater]
    rfl
  · have hall : ∀ t ∈ allTransforms transforms preamble, t.isBuiltIn = true :=
      forall_mem_allTransforms (fun _ => id) hbuiltIn
    have hdone := (Transform.runAll_settable hall (isSettable_of_reading hread)).1
    exact compile_of_finished hts hread hdone

/-- A look-up that always fails, between two transforms that do not. -/
def faultyTransforms : List Transform :=
  [.tableSpans, .failing "Lookup" (.fault ⟨"KeyError", "boom"⟩), .imageAttributes]

/-- A text without front matter is read, whatever stands in it. -/
theorem reading_text (access : Source.Access) {text : String}
    (h : FrontMatter.split? text.toList = none) :
    (reading access none (.text text)).result = .ok (bodyDocument {} text []) := by
  rw [reading, Attempt.result_bind_of_ok (a := {}) rfl, parse_text,
    FrontMatter.extract_of_no_block h]
  rfl

theorem failures_reported_of_lookup :
    (∀ t ∈ faultyTransforms, t.isBuiltIn = true ∨ t.AlwaysFails) ∧
      (run (.withoutFiles Charset.noDetector) none (some .plainRenderer)
        faultyTransforms (some "#set page()") (.text "| a | < |\n|---|---|\n")).result =
      .error (.transform "Transform Lookup failed: KeyError('boom')" (some "Lookup")
          (some (.fault ⟨"KeyError", "boom"⟩))) := by
  have hts : ∀ t ∈ faultyTransforms, t.isBuiltIn = true ∨ t.AlwaysFails := by
    simp only [faultyTransforms, List.forall_mem_cons]
    exact ⟨.inl rfl, .inr fun _ => nofun, .inl rfl, nofun⟩
  have hplain : FrontMatter.split? "| a | < |\n|---|---|\n".toList = none := by decide
  obtain ⟨tree, hread⟩ : ∃ tree, (reading (.withoutFiles Charset.noDetector) none
      (.text "| a | < |\n|---|---|\n")).result = .ok tree :=
    ⟨_, reading_text (.withoutFiles Charset.noDetector) hplain⟩
  obtain ⟨hdone, htree⟩ := Transform.runAll_settable
    (by decide : ∀ t ∈ Transform.defaults ++ [.tableSpans], t.isBuiltIn = true)
    (isSettable_of_reading hread)
  have hfail := Transform.run_of_isDocument (.failing "Lookup" (.fault ⟨"KeyError", "boom"⟩))
    (Node.isDocument_of_isSettable htree)
  obtain ⟨-, -, hreported⟩ := failures_reported (.withoutFiles Charset.noDetector) none
    (some .plainRenderer) hts (some "#set page()") (.text "| a | < |\n|---|---|\n")
  obtain ⟨hfailed, -⟩ := hreported _ hread
  refine ⟨hts, ?_⟩
  rw [hfailed (Transform.defaults ++ [.tableSpans]) _ [.imageAttributes, .preamble "#set page()"]
    (.fault ⟨"KeyError", "boom"⟩) rfl hdone (by rw [hfail]; rfl)]
  rfl

end Pipeline

end TypstPress
