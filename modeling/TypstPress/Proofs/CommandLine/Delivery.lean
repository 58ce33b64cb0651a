import TypstPress.Proofs.Charset.Detection
import TypstPress.Proofs.CommandLine.Writing
import TypstPress.Proofs.FrontMatter

/-!
# The command line and the library

The command line has a pipeline of its own, with exits between its stages, and
yet what it writes is what the library gives for the same source. `run_delivers`
says so of every run that asks for a compilation: a run that succeeds leaves the
library's result in its outputs, and one that the library refuses, or whose
sources cannot be read, leaves them as they were.

The pipelines are the same but for the transforms, and these are the transforms
of every compilation with those left out that the arguments do not keep
(`transforms_eq`). The rest is about reading and writing. The input is read after
the log is set up, so it must not be the log; then it is the same as before.
-/

namespace TypstPress.CommandLine

/-! ## The library's own composition -/

/-- A source parsed, rewritten and compiled, with the usual options. -/
def library (access : Source.Access) (transforms : List Transform) (source : Source) :
    Attempt Typst.Compiled := do
  let document ← Pipeline.document access none source
  let document ← Pipeline.rewrite transforms document
  Pipeline.compile none document

/-- Whether the arguments keep a transform. -/
def keeps (a : Arguments) : Transform → Bool
  | .imageAttributes => a.imageAttributes
  | .tableSpans => a.tableSpans
  | _ => true

theorem transforms_eq (a : Arguments) (preamble : Option String) :
    transforms a preamble =
      Transform.defaults.filter (keeps a) ++ Pipeline.preambleTransforms preamble := by
  rw [transforms, Transform.defaults]
  cases himages : a.imageAttributes <;> cases htables : a.tableSpans <;>
    simp [keeps, himages, htables]

section

variable (detector : Charset.Detector) (further : Charset.Registry) (a : Arguments)

theorem compiled_eq_library (bytes : List UInt8) (preamble : Option String) :
    compiled detector further a bytes preamble = library (.withoutFiles detector further)
      (Transform.defaults.filter (keeps a) ++ Pipeline.preambleTransforms preamble)
      (.bytes bytes) := by
  rw [compiled, library, transforms_eq]

theorem library_eq_run {a : Arguments} (himages : a.imageAttributes = true)
    (htables : a.tableSpans = true) (access : Source.Access) (preamble : Option String)
    (source : Source) :
    library access (Transform.defaults.filter (keeps a) ++ Pipeline.preambleTransforms preamble)
        source =
      Pipeline.run access none none [] preamble source := by
  have hkept : Transform.defaults.filter (keeps a) = Transform.defaults := by
    simp [Transform.defaults, keeps, himages, htables]
  rw [library, Pipeline.run, hkept, List.append_nil]

/-- A text in UTF-8 that has no front matter compiles, whatever stands in it. -/
theorem exists_compiled {text : String}
    (hmark : ¬ Charset.Utf8.mark <+: Charset.Utf8.encode text.toList)
    (hplain : FrontMatter.split? text.toList = none) (preamble : Option String) :
    ∃ result, (compiled detector further a (Charset.Utf8.encode text.toList) preamble).result =
      .ok result := by
  have hbytes := Charset.readBytes_of_utf8 further detector [] hmark rfl
  have hload : (Source.load (.withoutFiles detector further)
      (.bytes (Charset.Utf8.encode text.toList))).result = .ok text := by
    refine Attempt.result_mapFailure_of_ok ?_ _
    refine (Attempt.result_bind_of_ok hbytes _).trans ?_
    rw [String.ofList_toList]
    rfl
  have hread : (Pipeline.document (.withoutFiles detector further) none
      (.bytes (Charset.Utf8.encode text.toList))).result =
        .ok (Pipeline.bodyDocument {} text []) := by
    refine Attempt.result_mapFailure_of_ok ?_ _
    refine (Attempt.result_bind_of_ok (a := {}) rfl _).trans ?_
    rw [Pipeline.parse, Attempt.result_bind_of_ok hload,
      Attempt.result_bind_of_ok (FrontMatter.extract_of_no_block hplain)]
    rfl
  obtain ⟨rewritten, result, hrewrite, hcompile⟩ := Pipeline.compile_rewritten
    (fun _ => isBuiltIn_of_mem_transforms) {} (Pipeline.isSettable_document hread)
  refine ⟨result, ?_⟩
  rw [compiled, Attempt.result_bind_of_ok hread, Attempt.result_bind_of_ok hrewrite]
  exact (Attempt.result_bind_of_ok (a := {}) rfl _).trans hcompile

end

/-! ## Whole runs -/

theorem sourcesIn_eq_ok {a : Arguments} {w : Workspace} {bytes : List UInt8}
    {preamble : Option String} (h : sourcesIn a w = .ok (bytes, preamble)) :
    inputIn a w = .ok bytes ∧ preambleIn a w = .ok preamble := by
  rw [sourcesIn] at h
  cases hinput : inputIn a w with
  | error e =>
      rw [hinput] at h
      cases h
  | ok bytes' =>
      rw [hinput] at h
      cases hpreamble : preambleIn a w with
      | error e =>
          rw [hpreamble] at h
          cases h
      | ok preamble' =>
          rw [hpreamble] at h
          cases h
          exact ⟨rfl, rfl⟩

theorem Verdict.eq_finished {v : Verdict} (h : v.ending.code? = some 0) : v = .finished := by
  cases v with
  | finished => rfl
  | failed failure => cases h
  | stopped e =>
      rw [Verdict.ending] at h
      split at h <;> cases h

theorem Verdict.exists_failed {v : Verdict} (h : v.ending.code? = some 1) :
    ∃ failure, v = .failed failure := by
  cases v with
  | finished => cases h
  | failed failure => exact ⟨failure, rfl⟩
  | stopped e =>
      rw [Verdict.ending] at h
      split at h <;> cases h

theorem exists_of_finished {detector : Charset.Detector} {further : Charset.Registry}
    {a : Arguments} {w : Workspace} (h : verdict detector further a w = .finished) :
    ∃ bytes preamble result, sourcesIn a w = .ok (bytes, preamble) ∧
      (compiled detector further a bytes preamble).result = .ok result := by
  rw [verdict] at h
  split at h
  · cases h
  · next bytes preamble hsources =>
      split at h
      · cases h
      · next result hresult => exact ⟨bytes, preamble, result, hsources, hresult⟩

theorem exists_of_failed {detector : Charset.Detector} {further : Charset.Registry}
    {a : Arguments} {w : Workspace} {failure : Failure}
    (h : verdict detector further a w = .failed failure) :
    ∃ bytes preamble, sourcesIn a w = .ok (bytes, preamble) ∧
      (compiled detector further a bytes preamble).result = .error failure := by
  rw [verdict] at h
  split at h
  · cases h
  · next bytes preamble hsources =>
      split at h
      · next hresult =>
          cases h
          exact ⟨bytes, preamble, hsources, hresult⟩
      · split at h <;> cases h

section

variable (detector : Charset.Detector) (further : Charset.Registry) {a : Arguments}
  {w : Workspace} (hhere : Path.IsDirectoryName w.here)

include hhere

/-- Setting up the log of a run changes the file of the log. -/
theorem keepsBut_logged :
    w.KeepsBut (IsLog a w.here) (logged detector further a w) ∧
      ∀ log, (LogOutput.start (Workspace.system detector further) (.word a.logLevel) a.logFile
        a.trace w).1 = .ok log →
          ∀ path, log.file = some path → IsLog a w.here (path.full w.here) := by
  rw [logged]
  exact LogOutput.keepsBut_start detector further hhere
    fun name hname hnonempty => isLog_of_logFile hname hnonempty w.here

variable (hdistinct : HasDistinctFiles a w.here)

include hdistinct

/-- The input is not the log, so that setting up the log makes no difference to it. -/
theorem inputIn_of_keepsBut {w' : Workspace} (h : w.KeepsBut (IsLog a w.here) w')
    {bytes : List UInt8} (hbytes : inputIn a w' = .ok bytes) : inputIn a w = .ok bytes := by
  rw [inputIn] at hbytes ⊢
  split at hbytes
  · next hdash =>
      rw [if_pos hdash, ← h.input]
      exact hbytes
  · next hdash =>
      rw [if_neg hdash]
      rw [mapError_eq_ok_iff] at hbytes ⊢
      exact (h.read_eq_ok_iff hhere (hdistinct.not_isLog (Or.inl ⟨hdash, rfl⟩))).2 hbytes

theorem leavesOutputs_of_keepsBut {w₁ w' : Workspace} (h : w.KeepsBut (IsLog a w.here) w₁)
    (h' : (consumed a w₁).KeepsBut (IsLog a w.here) w') : LeavesOutputs a w w' where
  output := by rw [h'.output, consumed_output, h.output]
  files name hname bytes := by
    have hnot := hdistinct.not_isLog (Or.inr hname)
    have hhere₁ : (consumed a w₁).here = w.here := by rw [consumed_here, h.here]
    rw [h.read_eq_ok_iff hhere hnot, ← consumed_files a w₁, ← consumed_here a w₁,
      h'.read_eq_ok_iff]
    · rwa [hhere₁]
    · rwa [hhere₁]

variable {log : LogOutput} {w₁ : Workspace} (hkept : w.KeepsBut (IsLog a w.here) w₁)
  (hlog : ∀ path, log.file = some path → IsLog a w.here (path.full w.here))

include hkept hlog

theorem leavesOutputs_of_unread {e : Obstacle} (hsources : sourcesIn a w₁ = .error e) :
    LeavesOutputs a w (compile (Workspace.system detector further) log a w₁).2 := by
  have hhere₁ : Path.IsDirectoryName w₁.here := by rwa [hkept.here]
  have hlog₁ : ∀ path, log.file = some path → IsLog a w.here (path.full w₁.here) := by
    rwa [hkept.here]
  exact leavesOutputs_of_keepsBut hhere hdistinct hkept
    (keepsBut_compile_of_unread detector further a hhere₁ hlog₁ hsources)

theorem leavesOutputs_of_failed {failure : Failure}
    (hfailed : verdict detector further a w₁ = .failed failure) :
    LeavesOutputs a w (compile (Workspace.system detector further) log a w₁).2 := by
  have hhere₁ : Path.IsDirectoryName w₁.here := by rwa [hkept.here]
  have hlog₁ : ∀ path, log.file = some path → IsLog a w.here (path.full w₁.here) := by
    rwa [hkept.here]
  obtain ⟨bytes, preamble, hsources, hresult⟩ := exists_of_failed hfailed
  obtain ⟨w₂, hsaid, hcompile⟩ := exists_conclude detector further a hhere₁ hlog₁ hsources
  rw [← consumed_here a w₁, ← hsaid.here] at hhere₁ hlog₁
  rw [hcompile, hresult]
  exact leavesOutputs_of_keepsBut hhere hdistinct hkept
    (hsaid.trans (keepsBut_fail detector further hhere₁ hlog₁ failure))

/-- A compilation that is finished has written what the library gave for the bytes of
the input. -/
theorem delivers_of_finished (hopen : log.IsOpen w₁)
    (hfinished : verdict detector further a w₁ = .finished) :
    ∃ bytes preamble result, inputIn a w = .ok bytes ∧ preambleIn a w₁ = .ok preamble ∧
      (compiled detector further a bytes preamble).result = .ok result ∧
      Delivers a w (compile (Workspace.system detector further) log a w₁).2 result := by
  have hhere₁ : Path.IsDirectoryName w₁.here := by rwa [hkept.here]
  have hlog₁ : ∀ path, log.file = some path → IsLog a w.here (path.full w₁.here) := by
    rwa [hkept.here]
  obtain ⟨bytes, preamble, result, hsources, hresult⟩ := exists_of_finished hfinished
  obtain ⟨hinput, hpreamble⟩ := sourcesIn_eq_ok hsources
  obtain ⟨w₂, hsaid, hcompile⟩ := exists_conclude detector further a hhere₁ hlog₁ hsources
  have hsuccess := compile_ending detector further a hopen
  rw [← consumed_here a w₁, ← hsaid.here] at hhere₁ hlog₁
  rw [hfinished, hcompile, hresult] at hsuccess
  obtain ⟨w₃, hsummary, hwrite⟩ :=
    exists_writeResult detector further a hhere₁ hlog₁ hsuccess
  -- nothing but the log has changed until the result is written
  have hhere₃ : w₃.here = w.here := by
    rw [hsummary.here, hsaid.here, consumed_here, hkept.here]
  have houtput : w₃.output = w.output := by
    rw [hsummary.output, hsaid.output, consumed_output, hkept.output]
  rw [← hhere₃] at hhere hdistinct
  have hdelivers := delivers_of_writeResult detector further a hhere hdistinct hwrite
  rw [hhere₃] at hhere hdistinct
  refine ⟨bytes, preamble, result, inputIn_of_keepsBut hhere hdistinct hkept hinput, hpreamble,
    hresult, ?_⟩
  rw [hcompile, hresult]
  exact ⟨by rw [hdelivers.output, houtput], hdelivers.source, hdelivers.manifest⟩

end

section

variable (detector : Charset.Detector) (further : Charset.Registry) {words : List String}
  {a : Arguments} {w : Workspace}

/-- A run whose log cannot be set up changes nothing. -/
theorem run_of_logObstacle (hread : Arguments.read words = .ok (.compile a)) {e : Obstacle}
    (h : logObstacle? a w = some e) : (run (Workspace.system detector further) words w).2 = w := by
  obtain ⟨level, hlevel⟩ := Arguments.resolve_logLevel hread
  obtain ⟨name, hname, hzero, -⟩ := exists_of_logObstacle? h
  rw [run, hread]
  dsimp only [bind, StateT.bind]
  rw [LogOutput.start_of_zero detector further hlevel hname hzero a.trace]
  rfl

theorem logObstacle?_of_code (hread : Arguments.read words = .ok (.compile a)) {code : Nat}
    (h : exitCode? detector further words w = some code) : logObstacle? a w = none := by
  cases hlog : logObstacle? a w with
  | none => rfl
  | some e =>
      obtain ⟨name, -, -, rfl⟩ := exists_of_logObstacle? hlog
      rw [exitCode?_of_compile detector further hread, runVerdict, hlog] at h
      cases h

/-- A run whose log is set up is a compilation with it, in a workspace in which its own
file is all that may have changed. -/
theorem exists_log (hhere : Path.IsDirectoryName w.here)
    (hread : Arguments.read words = .ok (.compile a)) (h : logObstacle? a w = none) :
    ∃ log w₁, logged detector further a w = w₁ ∧ log.IsOpen w₁ ∧
      run (Workspace.system detector further) words w =
        compile (Workspace.system detector further) log a w₁ ∧
      w.KeepsBut (IsLog a w.here) w₁ ∧
      ∀ path, log.file = some path → IsLog a w.here (path.full w.here) := by
  obtain ⟨level, hlevel⟩ := Arguments.resolve_logLevel hread
  obtain ⟨log, w₁, hstart, hopen⟩ := LogOutput.exists_start detector further hlevel
    (logObstacle?_eq_none_iff.1 h) a.trace
  have hlogged : logged detector further a w = w₁ := by rw [logged, hstart]
  obtain ⟨hkept, hfile⟩ := keepsBut_logged detector further (a := a) hhere
  rw [hlogged] at hkept
  rw [hstart] at hfile
  refine ⟨log, w₁, hlogged, hopen, ?_, hkept, hfile log rfl⟩
  rw [run, hread]
  dsimp only [bind, StateT.bind]
  rw [hstart]

/-- What a run that succeeds writes is what the library gives for the same source:
with the transforms of every compilation, as far as they are kept, and the
preamble. A run that the library refuses, or whose sources cannot be read, writes
nothing. Without flags, the library's own compilation is what was run. -/
theorem run_delivers {w : Workspace} (hhere : Path.IsDirectoryName w.here) {words : List String}
    {a : Arguments} (hread : Arguments.read words = .ok (.compile a))
    (hdistinct : HasDistinctFiles a w.here) :
    (exitCode? detector further words w = some 0 → ∃ bytes preamble result,
        inputIn a w = .ok bytes ∧ preambleIn a (logged detector further a w) = .ok preamble ∧
        (library (.withoutFiles detector further)
          (Transform.defaults.filter (keeps a) ++ Pipeline.preambleTransforms preamble)
          (.bytes bytes)).result = .ok result ∧
        Delivers a w (run (Workspace.system detector further) words w).2 result) ∧
      (exitCode? detector further words w = some 1 ∨
          (∃ e, sourcesIn a (logged detector further a w) = .error e) →
        LeavesOutputs a w (run (Workspace.system detector further) words w).2) ∧
      (a.imageAttributes = true → a.tableSpans = true → ∀ bytes preamble,
        library (.withoutFiles detector further)
            (Transform.defaults.filter (keeps a) ++ Pipeline.preambleTransforms preamble)
            (.bytes bytes) =
          Pipeline.run (.withoutFiles detector further) none none [] preamble (.bytes bytes)) := by
  refine ⟨?_, ?_, fun himages htables bytes preamble =>
    library_eq_run himages htables _ preamble _⟩
  · intro hcode
    have hlog := logObstacle?_of_code detector further hread hcode
    obtain ⟨log, w₁, hlogged, hopen, hrun, hkept, hfile⟩ :=
      exists_log detector further hhere hread hlog
    rw [exitCode?_of_compile detector further hread, runVerdict, hlog] at hcode
    have hfinished := Verdict.eq_finished hcode
    rw [hlogged] at hfinished
    rw [hlogged, hrun]
    obtain ⟨bytes, preamble, result, hinput, hpreamble, hresult, hdelivers⟩ :=
      delivers_of_finished detector further hhere hdistinct hkept hfile hopen hfinished
    rw [compiled_eq_library] at hresult
    exact ⟨bytes, preamble, result, hinput, hpreamble, hresult, hdelivers⟩
  · intro hends
    cases hlog : logObstacle? a w with
    | some e =>
        rw [run_of_logObstacle detector further hread hlog]
        exact .refl a w
    | none =>
        obtain ⟨log, w₁, hlogged, -, hrun, hkept, hfile⟩ :=
          exists_log detector further hhere hread hlog
        rw [exitCode?_of_compile detector further hread, runVerdict, hlog, hlogged] at hends
        rw [hrun]
        rcases hends with hcode | ⟨e, hsources⟩
        · obtain ⟨failure, hfailed⟩ := Verdict.exists_failed hcode
          exact leavesOutputs_of_failed detector further hhere hdistinct hkept hfile hfailed
        · exact leavesOutputs_of_unread detector further hhere hdistinct hkept hfile hsources

end

/-- A command line that names an input, two outputs and a log. -/
def printingWords : List String :=
  ["in.md", "-o", "out.typ", "--assets-manifest", "out.json", "--log-file", "run.log"]

@[inherit_doc printingWords]
def printing : Arguments :=
  { input := "in.md", output := some "out.typ", manifest := some "out.json",
    logFile := some "run.log" }

/-- A workspace with nothing but an input. -/
def greeting : Workspace :=
  { files := [(["in.md"], .file (Charset.Utf8.encode ['h', 'i']))], here := ["home"] }

theorem read_printingWords : Arguments.read printingWords = .ok (.compile printing) := by
  with_unfolding_all rfl

theorem exitCode?_printingWords :
    exitCode? Charset.noDetector Charset.noFurther printingWords greeting = some 0 := by
  have hsources : sourcesIn printing
      (logged Charset.noDetector Charset.noFurther printing greeting) =
        .ok (Charset.Utf8.encode "hi".toList, none) :=
    rfl
  obtain ⟨result, hresult⟩ := @exists_compiled Charset.noDetector Charset.noFurther printing "hi"
    (by decide) (by decide) none
  have hwritten : written Charset.noDetector Charset.noFurther printing result
      (logged Charset.noDetector Charset.noFurther printing greeting) = .ok () := by
    -- whether the files can be written does not depend on what the result is
    rw [written_congr _ _ _ (.refl _) result { source := "", assets := [] }]
    rfl
  have hlog : logObstacle? printing greeting = none := by decide
  rw [exitCode?_of_compile Charset.noDetector Charset.noFurther read_printingWords, runVerdict,
    hlog]
  dsimp only
  rw [verdict, hsources]
  dsimp only
  rw [hresult]
  dsimp only
  rw [hwritten]
  rfl

theorem run_delivers_of_printingWords :
    Path.IsDirectoryName greeting.here ∧
      Arguments.read printingWords = .ok (.compile printing) ∧
      HasDistinctFiles printing greeting.here ∧
      exitCode? Charset.noDetector Charset.noFurther printingWords greeting = some 0 ∧
      ∃ bytes preamble result, inputIn printing greeting = .ok bytes ∧
        preambleIn printing (logged Charset.noDetector Charset.noFurther printing greeting) =
          .ok preamble ∧
        (library (.withoutFiles Charset.noDetector Charset.noFurther)
          (Transform.defaults.filter (keeps printing) ++ Pipeline.preambleTransforms preamble)
          (.bytes bytes)).result = .ok result ∧
        Delivers printing greeting
          (run (Workspace.system Charset.noDetector Charset.noFurther) printingWords greeting).2
          result := by
  have hhere : Path.IsDirectoryName greeting.here := by
    rw [Path.IsDirectoryName]
    decide
  have hdistinct : HasDistinctFiles printing greeting.here := by
    rw [HasDistinctFiles]
    decide
  obtain ⟨hsuccess, -, -⟩ := run_delivers Charset.noDetector Charset.noFurther hhere
    read_printingWords hdistinct
  exact ⟨hhere, read_printingWords, hdistinct, exitCode?_printingWords,
    hsuccess exitCode?_printingWords⟩

end TypstPress.CommandLine
