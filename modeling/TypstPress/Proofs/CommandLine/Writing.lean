import TypstPress.Proofs.CommandLine.Ending
import TypstPress.Proofs.Json.Reading

/-!
# What a run writes

A run changes files at three points: the log is written all along, and two files
at the end. Up to the end every file but the log is as it was; this is what
`KeepsBut` carries from one stage to the next, and to each of the exits between
them (`exists_conclude`, `keepsBut_stop`, `keepsBut_fail`).

What is written at the end is the last thing that happens to the output, but for
the list of images, and a file of another name does not notice that
(`delivers_of_writeResult`). So names have to be told apart, and nothing else is
asked of them: a file may be the device that keeps nothing, and then there is
nothing to say about it.
-/

namespace TypstPress

namespace Manifest

theorem hasProperNumbers_ofAssets (assets : List Typst.Asset) :
    (ofAssets assets).hasProperNumbers = true := by
  rw [ofAssets, Json.hasProperNumbers, Json.itemsHaveProperNumbers_iff]
  intro j hj
  obtain ⟨asset, -, rfl⟩ := List.mem_map.1 hj
  rfl

/-- The list of images is read as what it was written from. -/
theorem read?_render (assets : List Typst.Asset) :
    Json.read? (render assets) = some (ofAssets assets) :=
  Json.read?_indented (hasProperNumbers_ofAssets assets) (List.all_eq_true.1 (by decide))

end Manifest

namespace CommandLine

/-! ## The files of a run -/

section

variable (a : Arguments)

/-- The files that a run is given: its input, its output, the list of images and the
log. -/
def fileNames : List String :=
  (if a.input = "-" then [] else [a.input]) ++ (givenName? a.output).toList ++
    (givenName? a.manifest).toList ++ (givenName? a.logFile).toList

/-- Whether a full name is that of the log. -/
def IsLog (here full : List String) : Prop :=
  ∃ name, givenName? a.logFile = some name ∧ (Path.ofText name).full here = full

theorem isLog_of_logFile {a : Arguments} {name : String} (hname : a.logFile = some name)
    (hnonempty : name.isEmpty = false) (here : List String) :
    IsLog a here ((Path.ofText name).full here) := by
  refine ⟨_, ?_, rfl⟩
  rw [givenName?, hname, Option.filter_some, if_pos (by rw [hnonempty]; rfl)]

/-- Whether no two files of a run have the same full name. -/
def HasDistinctFiles (here : List String) : Prop :=
  ((fileNames a).map fun name => (Path.ofText name).full here).Nodup

/-- Whether one workspace is another one after a result was written: the source is in
the output, and the list of images can be read as JSON from the other file. -/
structure Delivers (w w' : Workspace) (result : Typst.Compiled) : Prop where
  output : w'.output = if (givenName? a.output).isSome then w.output else w.output ++ result.source
  source : ∀ name, givenName? a.output = some name →
    w'.Holds name (Charset.Utf8.encode result.source.toList)
  manifest : ∀ name, givenName? a.manifest = some name → ∃ text,
    w'.Holds name (Charset.Utf8.encode text.toList) ∧
      Json.read? text = some (.arr (result.assets.map fun asset =>
        .obj [("source_url", .str asset.sourceUrl), ("asset_id", .str asset.id)]))

/-- Whether the outputs of a run are in one workspace what they are in another. -/
structure LeavesOutputs (w w' : Workspace) : Prop where
  output : w'.output = w.output
  files : ∀ name, givenName? a.output = some name ∨ givenName? a.manifest = some name →
    ∀ bytes, w'.files.read w'.here (Path.ofText name) = .ok bytes ↔
      w.files.read w.here (Path.ofText name) = .ok bytes

theorem LeavesOutputs.refl (w : Workspace) : LeavesOutputs a w w :=
  ⟨rfl, fun _ _ _ => Iff.rfl⟩

variable {a} {here : List String}

theorem HasDistinctFiles.not_isLog (h : HasDistinctFiles a here) {name : String}
    (hname : a.input ≠ "-" ∧ name = a.input ∨ givenName? a.output = some name ∨
      givenName? a.manifest = some name) :
    ¬ IsLog a here ((Path.ofText name).full here) := by
  rintro ⟨log, hlog, hsame⟩
  rw [HasDistinctFiles, fileNames, List.map_append, List.nodup_append] at h
  refine h.2.2 _ (List.mem_map.2 ⟨name, ?_, rfl⟩) _ (List.mem_map.2 ⟨log, ?_, rfl⟩) hsame.symm
  · rcases hname with ⟨hdash, rfl⟩ | hname | hname
    · simp [hdash]
    · simp [hname]
    · simp [hname]
  · simp [hlog]

theorem HasDistinctFiles.output_ne_manifest (h : HasDistinctFiles a here) {name name' : String}
    (hname : givenName? a.output = some name) (hname' : givenName? a.manifest = some name') :
    (Path.ofText name).full here ≠ (Path.ofText name').full here := by
  rw [HasDistinctFiles, fileNames, List.map_append, List.nodup_append, List.map_append,
    List.nodup_append] at h
  refine h.1.2.2 _ (List.mem_map.2 ⟨name, ?_, rfl⟩) _ (List.mem_map.2 ⟨name', ?_, rfl⟩)
  · simp [hname]
  · simp [hname']

end

/-! ## Up to what is written -/

/-- The workspace after the sources are read: standard input may be used up. -/
def consumed (a : Arguments) (w : Workspace) : Workspace :=
  if a.input = "-" then { w with input := [] } else w

theorem consumed_here (a : Arguments) (w : Workspace) : (consumed a w).here = w.here := by
  rw [consumed]
  split <;> rfl

theorem consumed_output (a : Arguments) (w : Workspace) : (consumed a w).output = w.output := by
  rw [consumed]
  split <;> rfl

theorem consumed_files (a : Arguments) (w : Workspace) : (consumed a w).files = w.files := by
  rw [consumed]
  split <;> rfl

/-- What is left of a compilation once its sources have been compiled. -/
def conclude {m : Type → Type} [Monad m] (system : System m) (log : LogOutput) (a : Arguments) :
    Except Failure Typst.Compiled → m Ending
  | .error failure => fail system log failure
  | .ok result => do
    log.emit system ⟨.info, speaker, summary a result⟩
    match ← writeResult system a result with
    | .error e => stop system log "Could not write output" e
    | .ok () => return .success

section

variable (detector : Charset.Detector) (further : Charset.Registry) (a : Arguments)
  {changed : List String → Prop} {log : LogOutput} {w : Workspace}

variable (hhere : Path.IsDirectoryName w.here)
  (hlog : ∀ path, log.file = some path → changed (path.full w.here))

include hhere hlog

theorem keepsBut_stop (what : String) (e : Obstacle) :
    w.KeepsBut changed (stop (Workspace.system detector further) log what e w).2 := by
  rw [stop]
  split
  · exact LogOutput.keepsBut_emit detector further hhere hlog _
  · exact .refl w

theorem keepsBut_fail (failure : Failure) :
    w.KeepsBut changed (fail (Workspace.system detector further) log failure w).2 := by
  rw [fail]
  split
  · exact LogOutput.keepsBut_emit detector further hhere hlog _
  · exact .refl w

/-- Sources that cannot be read end a compilation before anything is written. -/
theorem keepsBut_compile_of_unread {e : Obstacle} (hsources : sourcesIn a w = .error e) :
    (consumed a w).KeepsBut changed
      (compile (Workspace.system detector further) log a w).2 := by
  have hread : readSources (Workspace.system detector further) a w =
      (.error e, consumed a w) := by
    rw [readSources_apply, hsources, consumed]
  rw [compile]
  dsimp only [bind, StateT.bind, pure, StateT.pure]
  rw [hread]
  rw [← consumed_here a w] at hhere hlog
  exact keepsBut_stop detector further hhere hlog _ e

/-- With its sources read, a compilation comes to its conclusion in a workspace in
which only the log may have changed. -/
theorem exists_conclude {bytes : List UInt8} {preamble : Option String}
    (hsources : sourcesIn a w = .ok (bytes, preamble)) :
    ∃ w', (consumed a w).KeepsBut changed w' ∧
      compile (Workspace.system detector further) log a w =
        conclude (Workspace.system detector further) log a
          (compiled detector further a bytes preamble).result w' := by
  have hread : readSources (Workspace.system detector further) a w =
      (.ok (bytes, preamble), consumed a w) := by
    rw [readSources_apply, hsources, consumed]
  rw [compile]
  dsimp only [bind, StateT.bind, pure, StateT.pure]
  rw [show (Workspace.system detector further).detector = detector from rfl,
    show (Workspace.system detector further).further = further from rfl, hread]
  dsimp only
  rw [← consumed_here a w] at hhere hlog
  generalize compiled detector further a bytes preamble = attempt
  refine ⟨_, LogOutput.keepsBut_emitAll detector further hhere hlog attempt.log, ?_⟩
  cases attempt.result with
  | error failure => rfl
  | ok result => rfl

/-- A result is written to a workspace in which only the log may have changed, and
a run that succeeds ends there. -/
theorem exists_writeResult {result : Typst.Compiled}
    (h : (conclude (Workspace.system detector further) log a (.ok result) w).1 = .success) :
    ∃ w', w.KeepsBut changed w' ∧
      writeResult (Workspace.system detector further) a result w' =
        (.ok (), (conclude (Workspace.system detector further) log a (.ok result) w).2) := by
  have hsaid := LogOutput.keepsBut_emit detector further hhere hlog
    ⟨.info, speaker, summary a result⟩
  rw [conclude] at h ⊢
  dsimp only [bind, StateT.bind, pure, StateT.pure] at h ⊢
  generalize log.emit (Workspace.system detector further) ⟨.info, speaker, summary a result⟩ w =
    said at hsaid h ⊢
  obtain ⟨⟨⟩, w₁⟩ := said
  refine ⟨w₁, hsaid, ?_⟩
  dsimp only [StateT.bind] at h ⊢
  generalize writeResult (Workspace.system detector further) a result w₁ = writing at h ⊢
  obtain ⟨outcome, w₂⟩ := writing
  cases outcome with
  | ok => rfl
  | error e =>
      dsimp only at h
      rw [stop_ending, Verdict.ending] at h
      split at h <;> cases h

end

/-! ## What is written -/

section

variable (detector : Charset.Detector) (further : Charset.Registry) (a : Arguments)
  {w : Workspace} (hhere : Path.IsDirectoryName w.here)

include hhere

theorem holds_of_writeFile {name text : String}
    (h : (writeFile (Workspace.system detector further) name text w).1 = .ok ()) :
    w.KeepsBut (· = (Path.ofText name).full w.here)
        (writeFile (Workspace.system detector further) name text w).2 ∧
      (writeFile (Workspace.system detector further) name text w).2.Holds name
        (Charset.Utf8.encode text.toList) := by
  rw [writeFile_apply] at h ⊢
  dsimp only at h ⊢
  refine ⟨.changeFile hhere (by rfl) _, ?_⟩
  rw [Workspace.changeFile] at h ⊢
  cases hfiles : w.files.update w.here (Path.ofText name)
      (fun _ => Charset.Utf8.encode text.toList) with
  | error e =>
      rw [hfiles] at h
      cases h
  | ok files => exact FileTree.read_of_update hfiles

theorem here_writeSource (source : String) :
    (writeSource (Workspace.system detector further) a source w).2.here = w.here := by
  cases houtput : givenName? a.output with
  | none =>
      rw [writeSource, houtput]
      rfl
  | some name =>
      have hfile : writeSource (Workspace.system detector further) a source =
          writeFile (Workspace.system detector further) name source := by
        rw [writeSource, houtput]
      have hkept : w.KeepsBut (fun _ => True) (Workspace.changeFile (Path.ofText name)
          (fun _ => Charset.Utf8.encode source.toList) w).2 :=
        .changeFile hhere trivial _
      rw [hfile, writeFile_apply]
      dsimp only
      rw [hkept.here]

/-- Source that is written goes to the output, and to standard output if there is
none. -/
theorem holds_of_writeSource {source : String}
    (h : (writeSource (Workspace.system detector further) a source w).1 = .ok ()) :
    (writeSource (Workspace.system detector further) a source w).2.output =
        (if (givenName? a.output).isSome then w.output else w.output ++ source) ∧
      ∀ name, givenName? a.output = some name →
        (writeSource (Workspace.system detector further) a source w).2.Holds name
          (Charset.Utf8.encode source.toList) := by
  cases houtput : givenName? a.output with
  | none =>
      refine ⟨?_, fun name hname => ?_⟩
      · rw [writeSource, houtput]
        rfl
      · cases hname
  | some name =>
      have hfile : writeSource (Workspace.system detector further) a source =
          writeFile (Workspace.system detector further) name source := by
        rw [writeSource, houtput]
      rw [hfile] at h ⊢
      obtain ⟨hkept, hholds⟩ := holds_of_writeFile detector further hhere h
      refine ⟨hkept.output, fun name' hname' => ?_⟩
      cases hname'
      exact hholds

/-- A list of images that is written goes to its file, and nothing else changes. -/
theorem holds_of_writeManifest {assets : List Typst.Asset}
    (h : (writeManifest (Workspace.system detector further) a assets w).1 = .ok ()) :
    w.KeepsBut
        (fun full => ∃ name, givenName? a.manifest = some name ∧
          (Path.ofText name).full w.here = full)
        (writeManifest (Workspace.system detector further) a assets w).2 ∧
      ∀ name, givenName? a.manifest = some name →
        (writeManifest (Workspace.system detector further) a assets w).2.Holds name
          (Charset.Utf8.encode (Manifest.render assets).toList) := by
  cases hmanifest : givenName? a.manifest with
  | none =>
      have hnothing : writeManifest (Workspace.system detector further) a assets =
          pure (.ok ()) := by
        rw [writeManifest, hmanifest]
      rw [hnothing]
      refine ⟨.refl w, fun name hname => ?_⟩
      cases hname
  | some name =>
      have hfile : writeManifest (Workspace.system detector further) a assets =
          writeFile (Workspace.system detector further) name (Manifest.render assets) := by
        rw [writeManifest, hmanifest]
      rw [hfile] at h ⊢
      obtain ⟨hkept, hholds⟩ := holds_of_writeFile detector further hhere h
      refine ⟨hkept.mono fun full hfull => ⟨name, rfl, hfull.symm⟩, fun name' hname' => ?_⟩
      cases hname'
      exact hholds

theorem delivers_of_writeResult {result : Typst.Compiled}
    (hdistinct : HasDistinctFiles a w.here) {w' : Workspace}
    (h : writeResult (Workspace.system detector further) a result w = (.ok (), w')) :
    Delivers a w w' result := by
  have hsource := @holds_of_writeSource detector further a w hhere result.source
  have hhere₁ := here_writeSource detector further a hhere result.source
  rw [writeResult] at h
  dsimp only [bind, StateT.bind, pure, StateT.pure] at h
  generalize writeSource (Workspace.system detector further) a result.source w = written
    at hsource hhere₁ h
  obtain ⟨outcome, w₁⟩ := written
  cases outcome with
  | error e => cases h
  | ok =>
      obtain ⟨houtput, hholds⟩ := hsource rfl
      dsimp only at hhere₁ houtput hholds h
      have hdirectory : Path.IsDirectoryName w₁.here := by rwa [hhere₁]
      have hmanifest :=
        @holds_of_writeManifest detector further a w₁ hdirectory result.assets
      rw [h] at hmanifest
      obtain ⟨hkept, hlist⟩ := hmanifest rfl
      refine ⟨hkept.output.trans houtput, ?_, ?_⟩
      · intro name hname
        refine hkept.holds hdirectory ?_ (hholds name hname)
        rintro ⟨name', hname', hsame⟩
        rw [hhere₁] at hsame
        exact hdistinct.output_ne_manifest hname hname' hsame.symm
      · intro name hname
        exact ⟨_, hlist name hname, Manifest.read?_render result.assets⟩

end

end CommandLine

end TypstPress
