import TypstPress.CommandLine.Run
import TypstPress.Proofs.Charset.Utf8
import TypstPress.Proofs.CommandLine.Arguments
import TypstPress.Proofs.Log.Output
import TypstPress.Proofs.Pipeline

/-!
# How a run ends

Three parts of a run look after their failures: what is read at the start, the
compilation, and what is written at the end. Each knows one family of failures
and lets the others through, so the question is which families can turn up
where.

In the middle part there is only one. A document that cannot be read fails as
the library fails, whatever the cause was, and one that was read is well formed
and compiles (`isLibrary_of_compiled`).

At both ends the system may refuse a file, which is looked after. Two failures
are not the system's and escape: a file name with a zero character, which the
system never gets to see, and a preamble that is read as UTF-8 and is not. The
file of the log, which comes before all parts, is looked after in the same way
and has the same gap. `RunEscapes` lists where they turn up, and `exitCode?_iff`
says that there is nothing else: a run without one of them comes to one of the
four exit codes, and each code to what it stands for.

The log is in the way of this argument, because it writes to a file between all
these steps. `compile_ending` takes it out: what is read is read before any
record of the compilation, and whether something can be written depends on the
names of the files only, which records leave as they are.
-/

namespace TypstPress.CommandLine

/-! ## Failures of a compilation -/

theorem isBuiltIn_of_mem_transforms {a : Arguments} {preamble : Option String} {t : Transform}
    (ht : t ∈ transforms a preamble) : t.isBuiltIn = true := by
  rw [transforms, List.mem_append, List.mem_append] at ht
  rcases ht with (ht | ht) | ht
  · split at ht
    · rw [List.mem_singleton.1 ht]
      rfl
    · cases ht
  · split at ht
    · rw [List.mem_singleton.1 ht]
      rfl
    · cases ht
  · cases preamble with
    | none => cases ht
    | some source =>
        rw [Pipeline.preambleTransforms] at ht
        split at ht
        · cases ht
        · rw [List.mem_singleton.1 ht]
          rfl

/-- Once its source is read as a document, a compilation always comes to a result,
so that only the reader's failures are reported, which are the library's. -/
theorem isLibrary_of_compiled {detector : Charset.Detector} {further : Charset.Registry}
    {a : Arguments} {bytes : List UInt8} {preamble : Option String} {failure : Failure}
    (h : (compiled detector further a bytes preamble).result = .error failure) :
    failure.isLibrary = true := by
  rw [compiled, Attempt.result_bind] at h
  cases hdocument : (Pipeline.document (.withoutFiles detector further) none
      (.bytes bytes)).result with
  | error f =>
      rw [hdocument] at h
      cases h
      exact Pipeline.isLibrary_of_document hdocument
  | ok tree =>
      rw [hdocument] at h
      obtain ⟨rewritten, result, hrewrite, hcompile⟩ := Pipeline.compile_rewritten
        (fun _ => isBuiltIn_of_mem_transforms) {}
        (Pipeline.isSettable_document hdocument)
      have hok : (Pipeline.rewrite (transforms a preamble) tree >>= Pipeline.compile none).result =
          .ok result :=
        (Attempt.result_bind_of_ok hrewrite _).trans
          ((Attempt.result_bind_of_ok (a := {}) rfl _).trans hcompile)
      exact absurd (h.symm.trans hok) nofun

/-! ## What is read -/

section

variable (a : Arguments)

/-- The bytes of the input in a workspace. -/
def inputIn (w : Workspace) : Except Obstacle (List UInt8) :=
  if a.input = "-" then .ok w.input
  else (w.files.read w.here (Path.ofText a.input)).mapError (.file (Path.ofText a.input))

/-- The preamble in a workspace. -/
def preambleIn (w : Workspace) : Except Obstacle (Option String) :=
  match givenName? a.preambleFile with
  | none => .ok a.preamble
  | some name => do
    let bytes ← (w.files.read w.here (Path.ofText name)).mapError (.file (Path.ofText name))
    (preambleText bytes).map some

/-- What is compiled in a workspace, the input before the preamble. -/
def sourcesIn (w : Workspace) : Except Obstacle (List UInt8 × Option String) := do
  let bytes ← inputIn a w
  let preamble ← preambleIn a w
  return (bytes, preamble)

variable (detector : Charset.Detector) (further : Charset.Registry)

theorem readInput_apply (w : Workspace) :
    readInput (Workspace.system detector further) a w =
      (inputIn a w, if a.input = "-" then { w with input := [] } else w) := by
  rw [readInput, inputIn]
  simp only [beq_iff_eq]
  split <;> rfl

theorem readPreamble_apply (w : Workspace) :
    readPreamble (Workspace.system detector further) a w = (preambleIn a w, w) := by
  rw [readPreamble, preambleIn]
  cases givenName? a.preambleFile with
  | none => rfl
  | some name =>
      dsimp only [bind, StateT.bind, pure, StateT.pure, readFile]
      rw [show (Workspace.system detector further).read (Path.ofText name) w =
        (w.files.read w.here (Path.ofText name), w) from rfl]
      cases w.files.read w.here (Path.ofText name) <;> rfl

/-- Reading changes nothing but that standard input may be used up. -/
theorem readSources_apply (w : Workspace) :
    readSources (Workspace.system detector further) a w =
      (sourcesIn a w, if a.input = "-" then { w with input := [] } else w) := by
  rw [readSources, sourcesIn]
  dsimp only [bind, StateT.bind, pure, StateT.pure]
  rw [readInput_apply]
  cases inputIn a w with
  | error e => rfl
  | ok bytes =>
      have hsame : preambleIn a (if a.input = "-" then { w with input := [] } else w) =
          preambleIn a w := by
        split <;> rfl
      dsimp only [StateT.bind]
      rw [readPreamble_apply, hsame]
      cases preambleIn a w <;> rfl

theorem sameNames_readSources (w : Workspace) :
    w.SameNames (readSources (Workspace.system detector further) a w).2 := by
  rw [readSources_apply]
  dsimp only
  split <;> exact ⟨rfl, rfl⟩

end

/-! ## What is written -/

section

variable (detector : Charset.Detector) (further : Charset.Registry) (a : Arguments)

theorem writeFile_apply (name text : String) (w : Workspace) :
    writeFile (Workspace.system detector further) name text w =
      ((Workspace.changeFile (Path.ofText name) (fun _ => Charset.Utf8.encode text.toList) w).1
          |>.mapError (.file (Path.ofText name)),
        (Workspace.changeFile (Path.ofText name)
          (fun _ => Charset.Utf8.encode text.toList) w).2) := by
  rw [writeFile]
  generalize Path.ofText name = path, Charset.Utf8.encode text.toList = bytes
  rfl

theorem writeFile_congr {w w' : Workspace} (h : w.SameNames w') (name text text' : String) :
    (writeFile (Workspace.system detector further) name text w).1 =
        (writeFile (Workspace.system detector further) name text' w').1 ∧
      (writeFile (Workspace.system detector further) name text w).2.SameNames
        (writeFile (Workspace.system detector further) name text' w').2 := by
  obtain ⟨hresult, hnames⟩ := h.changeFile (Path.ofText name)
    (fun _ => Charset.Utf8.encode text.toList) (fun _ => Charset.Utf8.encode text'.toList)
  rw [writeFile_apply, writeFile_apply]
  dsimp only
  exact ⟨congrArg _ hresult, hnames⟩

theorem writeSource_congr {w w' : Workspace} (h : w.SameNames w') (source source' : String) :
    (writeSource (Workspace.system detector further) a source w).1 =
        (writeSource (Workspace.system detector further) a source' w').1 ∧
      (writeSource (Workspace.system detector further) a source w).2.SameNames
        (writeSource (Workspace.system detector further) a source' w').2 := by
  rw [writeSource, writeSource]
  cases givenName? a.output with
  | none => exact ⟨rfl, h.here, h.shape⟩
  | some name => exact writeFile_congr detector further h name source source'

theorem writeManifest_congr {w w' : Workspace} (h : w.SameNames w')
    (assets assets' : List Typst.Asset) :
    (writeManifest (Workspace.system detector further) a assets w).1 =
      (writeManifest (Workspace.system detector further) a assets' w').1 := by
  rw [writeManifest, writeManifest]
  cases givenName? a.manifest with
  | none => rfl
  | some name => exact (writeFile_congr detector further h name _ _).1

/-- Whether the outcome of a compilation can be written in a workspace, or the
obstacle. -/
def written (result : Typst.Compiled) (w : Workspace) : Except Obstacle Unit :=
  (writeResult (Workspace.system detector further) a result w).1

theorem written_eq (result : Typst.Compiled) (w : Workspace) :
    written detector further a result w = (do
      (writeSource (Workspace.system detector further) a result.source w).1
      (writeManifest (Workspace.system detector further) a result.assets
        (writeSource (Workspace.system detector further) a result.source w).2).1) := by
  rw [written, writeResult]
  dsimp only [bind, StateT.bind, pure, StateT.pure]
  rcases writeSource (Workspace.system detector further) a result.source w with ⟨outcome, w'⟩
  cases outcome <;> rfl

/-- Whether the outcome is written does not depend on what it is, nor on what is in
the files. -/
theorem written_congr {w w' : Workspace} (h : w.SameNames w') (result result' : Typst.Compiled) :
    written detector further a result w = written detector further a result' w' := by
  obtain ⟨hsource, hnames⟩ :=
    writeSource_congr detector further a h result.source result'.source
  rw [written_eq, written_eq, hsource,
    writeManifest_congr detector further a hnames result.assets result'.assets]

/-! ## What a compilation comes to -/

/-- What a compilation comes to. -/
inductive Verdict where
  | finished
  | failed (failure : Failure)
  | stopped (e : Obstacle)

/-- How a run ends with a compilation. Obstacles that are not the system's escape. -/
def Verdict.ending : Verdict → Ending
  | .finished => .success
  | .failed _ => .compilationError
  | .stopped e => if e.isSystemError then .fileError else .escaped (.fault e.fault)

/-- What a compilation comes to in a workspace: the sources are read, compiled,
and the outcome written. -/
def verdict (w : Workspace) : Verdict :=
  match sourcesIn a w with
  | .error e => .stopped e
  | .ok (bytes, preamble) =>
    match (compiled detector further a bytes preamble).result with
    | .error failure => .failed failure
    | .ok result =>
      match written detector further a result w with
      | .error e => .stopped e
      | .ok () => .finished

theorem stop_ending (log : LogOutput) (what : String) (e : Obstacle) (w : Workspace) :
    (stop (Workspace.system detector further) log what e w).1 = (Verdict.stopped e).ending := by
  rw [stop, Verdict.ending]
  split <;> rfl

theorem fail_ending (log : LogOutput) {failure : Failure} (h : failure.isLibrary = true)
    (w : Workspace) :
    (fail (Workspace.system detector further) log failure w).1 = .compilationError := by
  rw [fail, if_pos h]
  rfl

/-- A compilation ends as its verdict says in the workspace in which the log is set
up. The records that are written on the way make no difference. -/
theorem compile_ending {log : LogOutput} {w : Workspace} (hlog : log.IsOpen w) :
    (compile (Workspace.system detector further) log a w).1 =
      (verdict detector further a w).ending := by
  have hread := sameNames_readSources a detector further w
  have hsources : (readSources (Workspace.system detector further) a w).1 = sourcesIn a w := by
    rw [readSources_apply]
  rw [compile, verdict, ← hsources]
  dsimp only [bind, StateT.bind, pure, StateT.pure]
  rw [show (Workspace.system detector further).detector = detector from rfl,
    show (Workspace.system detector further).further = further from rfl]
  generalize readSources (Workspace.system detector further) a w = reading at hread
  obtain ⟨outcome, w₁⟩ := reading
  cases outcome with
  | error e => exact stop_ending detector further log _ e w₁
  | ok pair =>
      obtain ⟨bytes, preamble⟩ := pair
      have hfailure : ∀ failure,
          (compiled detector further a bytes preamble).result = .error failure →
            failure.isLibrary = true :=
        fun _ => isLibrary_of_compiled
      dsimp only
      generalize compiled detector further a bytes preamble = attempt at hfailure
      have hsaid := hread.trans
        (LogOutput.sameNames_emitAll detector further (hlog.of_sameNames hread) attempt.log)
      cases hresult : attempt.result with
      | error failure => exact fail_ending detector further log (hfailure failure hresult) _
      | ok result =>
          have hready := hsaid.trans (LogOutput.sameNames_emit detector further
            (hlog.of_sameNames hsaid) ⟨.info, speaker, summary a result⟩)
          dsimp only
          -- the records may be in a file that is written now, but it is the same file
          rw [written_congr detector further a hready result result, written]
          unfold StateT.bind
          dsimp only [bind]
          generalize writeResult (Workspace.system detector further) a result _ = writing
          obtain ⟨outcome, w₂⟩ := writing
          cases outcome with
          | error e => exact stop_ending detector further log _ e w₂
          | ok => rfl

theorem isLibrary_of_failed {w : Workspace} {failure : Failure}
    (h : verdict detector further a w = .failed failure) : failure.isLibrary = true := by
  rw [verdict] at h
  split at h
  · cases h
  · split at h
    · next hcompiled =>
        cases h
        exact isLibrary_of_compiled hcompiled
    · split at h <;> cases h

end

/-! ## What escapes -/

/-- Whether something other than the system stands in the way. -/
def IsUnhandled {α : Type} (outcome : Except Obstacle α) : Prop :=
  ∃ e, outcome = .error e ∧ e.isSystemError = false

section

variable {α β : Type}

theorem not_isUnhandled_ok (x : α) : ¬ IsUnhandled (Except.ok x) := by
  rintro ⟨e, h, -⟩
  cases h

theorem isUnhandled_bind_iff {x : Except Obstacle α} {f : α → Except Obstacle β} :
    IsUnhandled (x >>= f) ↔ IsUnhandled x ∨ ∃ y, x = .ok y ∧ IsUnhandled (f y) := by
  cases x with
  | error e =>
      constructor
      · rintro ⟨e', h, he⟩
        cases h
        exact Or.inl ⟨e, rfl, he⟩
      · rintro (⟨e', h, he⟩ | ⟨y, h, -⟩)
        · cases h
          exact ⟨e, rfl, he⟩
        · cases h
  | ok y =>
      constructor
      · exact fun h => Or.inr ⟨y, rfl, h⟩
      · rintro (h | ⟨y', h, hy⟩)
        · exact absurd h (not_isUnhandled_ok y)
        · cases h
          exact hy

theorem isUnhandled_map_iff {x : Except Obstacle α} {f : α → β} :
    IsUnhandled (x.map f) ↔ IsUnhandled x := by
  cases x with
  | error e =>
      constructor
      · rintro ⟨e', h, he⟩
        cases h
        exact ⟨e, rfl, he⟩
      · rintro ⟨e', h, he⟩
        cases h
        exact ⟨e, rfl, he⟩
  | ok y => exact iff_of_false (not_isUnhandled_ok _) (not_isUnhandled_ok _)

theorem mapError_eq_ok_iff {ε ε' : Type} {x : Except ε α} {f : ε → ε'} {y : α} :
    x.mapError f = .ok y ↔ x = .ok y := by
  cases x with
  | error e => exact iff_of_false nofun nofun
  | ok z => simp [Except.mapError]

/-- Among the reasons for which a file is refused, only a zero character in its name
is not the system's. -/
theorem isUnhandled_mapError_iff {x : Except FileError α} {path : Path} :
    IsUnhandled (x.mapError (.file path)) ↔ x = .error .zeroInName := by
  constructor
  · rintro ⟨e, h, he⟩
    cases x with
    | ok y => cases h
    | error e' =>
        cases h
        cases e' with
        | zeroInName => rfl
        | missing | directory | notADirectory | nameTooLong | denied | other => cases he
  · rintro rfl
    exact ⟨.file path .zeroInName, rfl, rfl⟩

end

section

variable (detector : Charset.Detector) (further : Charset.Registry) (a : Arguments)
  (w : Workspace)

theorem isUnhandled_inputIn_iff : IsUnhandled (inputIn a w) ↔ '\x00' ∈ a.input.toList := by
  rw [inputIn]
  split
  · next hdash =>
      rw [hdash]
      exact iff_of_false (not_isUnhandled_ok _) (by decide)
  · rw [isUnhandled_mapError_iff, FileTree.read_eq_zeroInName_iff, Path.zero_mem_text_ofText_iff]

theorem isUnhandled_preambleText_iff {bytes : List UInt8} :
    IsUnhandled (preambleText bytes) ↔ ∀ cs, bytes ≠ Charset.Utf8.encode cs := by
  rw [preambleText]
  cases hdecode : Charset.Utf8.decode bytes with
  | ok cs =>
      refine iff_of_false (not_isUnhandled_ok _) fun h => ?_
      exact h cs (Charset.Utf8.decode_eq_ok_iff.1 hdecode)
  | error defect =>
      refine iff_of_true ⟨_, rfl, rfl⟩ fun cs h => ?_
      rw [Charset.Utf8.decode_eq_ok_iff.2 h] at hdecode
      cases hdecode

theorem isUnhandled_preambleIn_iff :
    IsUnhandled (preambleIn a w) ↔
      ∃ name, givenName? a.preambleFile = some name ∧ ('\x00' ∈ name.toList ∨
        ∃ content, w.files.read w.here (Path.ofText name) = .ok content ∧
          ∀ cs, content ≠ Charset.Utf8.encode cs) := by
  rw [preambleIn]
  cases givenName? a.preambleFile with
  | none => exact iff_of_false (not_isUnhandled_ok _) nofun
  | some name =>
      simp only [Option.some.injEq, exists_eq_left']
      rw [isUnhandled_bind_iff, isUnhandled_mapError_iff, FileTree.read_eq_zeroInName_iff,
        Path.zero_mem_text_ofText_iff]
      simp only [mapError_eq_ok_iff, isUnhandled_map_iff, isUnhandled_preambleText_iff]

theorem isUnhandled_writeFile_iff (name text : String) :
    IsUnhandled (writeFile (Workspace.system detector further) name text w).1 ↔
      '\x00' ∈ name.toList := by
  rw [writeFile_apply]
  dsimp only
  rw [isUnhandled_mapError_iff, Workspace.changeFile, ← Path.zero_mem_text_ofText_iff,
    ← FileTree.update_eq_zeroInName_iff w.files w.here (Path.ofText name)
      (fun _ => Charset.Utf8.encode text.toList)]
  cases w.files.update w.here (Path.ofText name) fun _ => Charset.Utf8.encode text.toList with
  | ok files => simp
  | error e => simp

theorem isUnhandled_writeSource_iff (source : String) :
    IsUnhandled (writeSource (Workspace.system detector further) a source w).1 ↔
      ∃ name, givenName? a.output = some name ∧ '\x00' ∈ name.toList := by
  rw [writeSource]
  cases givenName? a.output with
  | none => exact iff_of_false (not_isUnhandled_ok _) nofun
  | some name =>
      simp only [Option.some.injEq, exists_eq_left']
      exact isUnhandled_writeFile_iff detector further w name source

theorem isUnhandled_writeManifest_iff (assets : List Typst.Asset) :
    IsUnhandled (writeManifest (Workspace.system detector further) a assets w).1 ↔
      ∃ name, givenName? a.manifest = some name ∧ '\x00' ∈ name.toList := by
  rw [writeManifest]
  cases givenName? a.manifest with
  | none => exact iff_of_false (not_isUnhandled_ok _) nofun
  | some name =>
      simp only [Option.some.injEq, exists_eq_left']
      exact isUnhandled_writeFile_iff detector further w name _

variable {w}

/-- A compilation is stopped by its sources or by what it would write. -/
theorem exists_stopped_iff :
    (∃ e, verdict detector further a w = .stopped e ∧ e.isSystemError = false) ↔
      IsUnhandled (sourcesIn a w) ∨ ∃ bytes preamble result,
        sourcesIn a w = .ok (bytes, preamble) ∧
          (compiled detector further a bytes preamble).result = .ok result ∧
          IsUnhandled (written detector further a result w) := by
  constructor
  · rintro ⟨e, h, he⟩
    rw [verdict] at h
    split at h
    · next hsources =>
        cases h
        exact Or.inl ⟨e, hsources, he⟩
    · next bytes preamble hsources =>
        split at h
        · cases h
        · next result hcompiled =>
            split at h
            · next hwritten =>
                cases h
                exact Or.inr ⟨bytes, preamble, result, hsources, hcompiled, e, hwritten, he⟩
            · cases h
  · rintro (⟨e, hsources, he⟩ |
      ⟨bytes, preamble, result, hsources, hcompiled, e, hwritten, he⟩)
    · exact ⟨e, by rw [verdict, hsources], he⟩
    · refine ⟨e, ?_, he⟩
      rw [verdict, hsources]
      dsimp only
      rw [hcompiled]
      dsimp only
      rw [hwritten]

/-- What escapes from a compilation in a workspace: a file name with a zero
character, or a preamble that is not in UTF-8, once the compilation comes to it. -/
inductive Escapes (w : Workspace) : Prop where
  | input (hzero : '\x00' ∈ a.input.toList)
  | preambleName {bytes : List UInt8} {name : String} (hinput : inputIn a w = .ok bytes)
      (hname : givenName? a.preambleFile = some name) (hzero : '\x00' ∈ name.toList)
  | preambleText {bytes content : List UInt8} {name : String} (hinput : inputIn a w = .ok bytes)
      (hname : givenName? a.preambleFile = some name)
      (hread : w.files.read w.here (Path.ofText name) = .ok content)
      (hcontent : ∀ cs, content ≠ Charset.Utf8.encode cs)
  | output {bytes : List UInt8} {preamble : Option String} {result : Typst.Compiled}
      {name : String} (hsources : sourcesIn a w = .ok (bytes, preamble))
      (hcompiled : (compiled detector further a bytes preamble).result = .ok result)
      (hname : givenName? a.output = some name) (hzero : '\x00' ∈ name.toList)
  | manifest {bytes : List UInt8} {preamble : Option String} {result : Typst.Compiled}
      {name : String} (hsources : sourcesIn a w = .ok (bytes, preamble))
      (hcompiled : (compiled detector further a bytes preamble).result = .ok result)
      (houtput : (writeSource (Workspace.system detector further) a result.source w).1 = .ok ())
      (hname : givenName? a.manifest = some name) (hzero : '\x00' ∈ name.toList)

theorem isUnhandled_sourcesIn_iff :
    IsUnhandled (sourcesIn a w) ↔ '\x00' ∈ a.input.toList ∨
      ∃ bytes, inputIn a w = .ok bytes ∧ IsUnhandled (preambleIn a w) := by
  rw [sourcesIn, isUnhandled_bind_iff, isUnhandled_inputIn_iff]
  have hpreamble : ∀ bytes : List UInt8,
      IsUnhandled (do
        let preamble ← preambleIn a w
        return (bytes, preamble)) ↔ IsUnhandled (preambleIn a w) := by
    intro bytes
    rw [isUnhandled_bind_iff]
    exact or_iff_left fun ⟨_, _, h⟩ => not_isUnhandled_ok _ h
  simp only [hpreamble]

theorem isUnhandled_written_iff (result : Typst.Compiled) :
    IsUnhandled (written detector further a result w) ↔
      (∃ name, givenName? a.output = some name ∧ '\x00' ∈ name.toList) ∨
        ((writeSource (Workspace.system detector further) a result.source w).1 = .ok () ∧
          ∃ name, givenName? a.manifest = some name ∧ '\x00' ∈ name.toList) := by
  rw [written_eq, isUnhandled_bind_iff, isUnhandled_writeSource_iff]
  simp only [isUnhandled_writeManifest_iff]
  exact or_congr_right ⟨fun ⟨_, h⟩ => h, fun h => ⟨(), h⟩⟩

theorem exists_stopped_iff_escapes :
    (∃ e, verdict detector further a w = .stopped e ∧ e.isSystemError = false) ↔
      Escapes detector further a w := by
  simp only [exists_stopped_iff, isUnhandled_sourcesIn_iff, isUnhandled_preambleIn_iff,
    isUnhandled_written_iff]
  constructor
  · rintro ((hzero | ⟨bytes, hinput, name, hname, hzero | ⟨content, hread, hcontent⟩⟩) |
      ⟨bytes, preamble, result, hsources, hcompiled,
        ⟨name, hname, hzero⟩ | ⟨houtput, name, hname, hzero⟩⟩)
    · exact .input hzero
    · exact .preambleName hinput hname hzero
    · exact .preambleText hinput hname hread hcontent
    · exact .output hsources hcompiled hname hzero
    · exact .manifest hsources hcompiled houtput hname hzero
  · intro h
    cases h with
    | input hzero => exact Or.inl (Or.inl hzero)
    | preambleName hinput hname hzero =>
        exact Or.inl (Or.inr ⟨_, hinput, _, hname, Or.inl hzero⟩)
    | preambleText hinput hname hread hcontent =>
        exact Or.inl (Or.inr ⟨_, hinput, _, hname, Or.inr ⟨_, hread, hcontent⟩⟩)
    | output hsources hcompiled hname hzero =>
        exact Or.inr ⟨_, _, _, hsources, hcompiled, Or.inl ⟨_, hname, hzero⟩⟩
    | manifest hsources hcompiled houtput hname hzero =>
        exact Or.inr ⟨_, _, _, hsources, hcompiled, Or.inr ⟨houtput, _, hname, hzero⟩⟩

end

/-! ## The exit code -/

section

variable (detector : Charset.Detector) (further : Charset.Registry)

/-- The workspace that a compilation works in: the log is set up. -/
def logged (a : Arguments) (w : Workspace) : Workspace :=
  (LogOutput.start (Workspace.system detector further) (.word a.logLevel) a.logFile a.trace w).2

/-- The exit code of a run in a workspace, unless a failure escapes from it. -/
def exitCode? (words : List String) (w : Workspace) : Option Nat :=
  (run (Workspace.system detector further) words w).1.code?

/-- What stands in the way of the log, if it is not the system: a zero character in
the name of its file from the root. -/
def logObstacle? (a : Arguments) (w : Workspace) : Option Obstacle :=
  (givenName? a.logFile).bind fun name =>
    if '\x00' ∈ (LogOutput.pathOf w name).text.toList then
      some (.file (LogOutput.pathOf w name) .zeroInName)
    else none

/-- What a run with arguments for a compilation comes to in a workspace: the log is
set up, and then it is the compilation's verdict. -/
def runVerdict (a : Arguments) (w : Workspace) : Verdict :=
  match logObstacle? a w with
  | some e => .stopped e
  | none => verdict detector further a (logged detector further a w)

/-- What escapes from a run with arguments for a compilation: a zero character in the
name of the log's file from the root, or what escapes from the compilation once the
log is set up. -/
inductive RunEscapes (a : Arguments) (w : Workspace) : Prop where
  | log {name : String} (hname : givenName? a.logFile = some name)
      (hzero : '\x00' ∈ (LogOutput.pathOf w name).text.toList)
  | compilation
      (hlog : ∀ name, givenName? a.logFile = some name →
        '\x00' ∉ (LogOutput.pathOf w name).text.toList)
      (h : Escapes detector further a (logged detector further a w))

variable {w : Workspace}

theorem logObstacle?_eq_none_iff {a : Arguments} :
    logObstacle? a w = none ↔ ∀ name, givenName? a.logFile = some name →
      '\x00' ∉ (LogOutput.pathOf w name).text.toList := by
  simp [logObstacle?, Option.bind_eq_none_iff]

theorem exists_of_logObstacle? {a : Arguments} {e : Obstacle} (h : logObstacle? a w = some e) :
    ∃ name, givenName? a.logFile = some name ∧
      '\x00' ∈ (LogOutput.pathOf w name).text.toList ∧
      e = .file (LogOutput.pathOf w name) .zeroInName := by
  obtain ⟨name, hname, h⟩ := Option.bind_eq_some_iff.1 h
  split at h
  · next hzero =>
      injection h with h
      exact ⟨name, hname, hzero, h.symm⟩
  · cases h

theorem exists_stopped_iff_runEscapes {a : Arguments} :
    (∃ e, runVerdict detector further a w = .stopped e ∧ e.isSystemError = false) ↔
      RunEscapes detector further a w := by
  rw [runVerdict]
  cases hlog : logObstacle? a w with
  | some e =>
      obtain ⟨name, hname, hzero, rfl⟩ := exists_of_logObstacle? hlog
      exact iff_of_true ⟨_, rfl, rfl⟩ (.log hname hzero)
  | none =>
      dsimp only
      rw [exists_stopped_iff_escapes]
      refine ⟨.compilation (logObstacle?_eq_none_iff.1 hlog), fun h => ?_⟩
      cases h with
      | log hname hzero => exact absurd hzero (logObstacle?_eq_none_iff.1 hlog _ hname)
      | compilation _ h => exact h

/-- A run ends as its verdict says. -/
theorem run_ending {words : List String} {a : Arguments}
    (h : Arguments.read words = .ok (.compile a)) :
    (run (Workspace.system detector further) words w).1 =
      (runVerdict detector further a w).ending := by
  obtain ⟨level, hlevel⟩ := Arguments.resolve_logLevel h
  rw [runVerdict, run, h]
  dsimp only [bind, StateT.bind]
  cases hobstacle : logObstacle? a w with
  | some e =>
      obtain ⟨name, hname, hzero, rfl⟩ := exists_of_logObstacle? hobstacle
      rw [LogOutput.start_of_zero detector further hlevel hname hzero a.trace]
      rfl
  | none =>
      obtain ⟨log, w', hstart, hlog⟩ := LogOutput.exists_start detector further hlevel
        (logObstacle?_eq_none_iff.1 hobstacle) a.trace
      rw [logged, hstart]
      exact compile_ending detector further a hlog

theorem exitCode?_of_compile {words : List String} {a : Arguments}
    (h : Arguments.read words = .ok (.compile a)) :
    exitCode? detector further words w = (runVerdict detector further a w).ending.code? := by
  rw [exitCode?, run_ending detector further h]

theorem isLibrary_of_runVerdict {a : Arguments} {failure : Failure}
    (h : runVerdict detector further a w = .failed failure) : failure.isLibrary = true := by
  rw [runVerdict] at h
  split at h
  · cases h
  · exact isLibrary_of_failed detector further a h

end

/-- An empty input beside a preamble that is not in UTF-8. -/
def foreignPreamble : Workspace :=
  { files := [(["in.md"], .file []), (["p.typ"], .file [0xFF])] }

/-- The arguments that ask for the preamble of `foreignPreamble`. -/
def foreignArguments : Arguments := { input := "in.md", preambleFile := some "p.typ" }

theorem verdict_foreignPreamble :
    verdict Charset.noDetector Charset.noFurther foreignArguments foreignPreamble =
      .stopped (.encoding ⟨"utf-8", 0, [0xFF], "invalid start byte"⟩) := by
  have hinput : inputIn foreignArguments foreignPreamble = .ok [] := by
    rw [inputIn, if_neg (by decide)]
    rfl
  have hread : foreignPreamble.files.read foreignPreamble.here (Path.ofText "p.typ") =
      .ok [0xFF] := rfl
  have hdecode : Charset.Utf8.decode [0xFF] =
      .error ⟨"utf-8", 0, [0xFF], "invalid start byte"⟩ := by
    rw [Charset.Utf8.decode, Charset.Utf8.pieces]
    rfl
  have hname : givenName? foreignArguments.preambleFile = some "p.typ" := rfl
  have hpreamble : preambleIn foreignArguments foreignPreamble =
      .error (.encoding ⟨"utf-8", 0, [0xFF], "invalid start byte"⟩) := by
    rw [preambleIn, hname]
    dsimp only
    rw [hread]
    show (preambleText [0xFF]).map some = _
    rw [preambleText, hdecode]
    rfl
  rw [verdict, sourcesIn, hinput, hpreamble]
  rfl

theorem read_foreignArguments :
    Arguments.read ["in.md", "--preamble-file", "p.typ"] = .ok (.compile foreignArguments) := by
  rw [Arguments.read]
  show Arguments.Draft.read {} [.plain "in.md", .flag .preambleFile false none,
    .plain "p.typ"] = _
  simp [Arguments.Draft.read, Arguments.Cluster.of, Arguments.Cluster.ofFlag, Flag.takesValue,
    Flag.valueName?, Arguments.Draft.use, Arguments.applyAll, Arguments.apply,
    Arguments.Draft.finish, bind, Except.bind, pure, Except.pure, foreignArguments]

end TypstPress.CommandLine
