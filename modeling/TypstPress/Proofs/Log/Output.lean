import TypstPress.Files.Workspace
import TypstPress.Log.Output
import TypstPress.Proofs.Files.FileTree
import TypstPress.Proofs.Files.Frame

/-!
# What a log does to the files

A log is written while a run reads and writes files of its own, and once it is
set up it must not be what decides how the run ends. It changes what one file
holds, and otherwise nothing that could matter: the names of the files stay as
they are, and with them every answer to whether some file can be written.

The first record is the exception, because it may create the file. `IsOpen`
says that this is over; `exists_start` that it always is once the log is set
up, and `sameNames_emitAll` that from then on no record brings in a name. Only a
zero character in the name of the file stands in the way of setting it up
(`start_of_zero`).
-/

namespace TypstPress

/-! ## Workspaces with the same files -/

namespace Workspace

/-- Whether two workspaces have the same directory and files of the same names. -/
structure SameNames (w w' : Workspace) : Prop where
  here : w.here = w'.here
  shape : w.files.shape = w'.files.shape

namespace SameNames

theorem refl (w : Workspace) : w.SameNames w := ⟨rfl, rfl⟩

theorem trans {w w' w'' : Workspace} (h : w.SameNames w') (h' : w'.SameNames w'') :
    w.SameNames w'' :=
  ⟨h.here.trans h'.here, h.shape.trans h'.shape⟩

/-- Changing a file meets the same obstacle in workspaces with the same names, and
leaves such workspaces. -/
theorem changeFile {w w' : Workspace} (h : w.SameNames w') (path : Path)
    (change change' : List UInt8 → List UInt8) :
    (Workspace.changeFile path change w).1 = (Workspace.changeFile path change' w').1 ∧
      (Workspace.changeFile path change w).2.SameNames
        (Workspace.changeFile path change' w').2 := by
  have hupdate := FileTree.update_shape h.shape w.here path change change'
  rw [Workspace.changeFile, Workspace.changeFile, ← h.here]
  cases hfiles : w.files.update w.here path change with
  | error e =>
      cases hfiles' : w'.files.update w.here path change' with
      | error e' =>
          rw [hfiles, hfiles'] at hupdate
          cases hupdate
          exact ⟨rfl, h⟩
      | ok files' =>
          rw [hfiles, hfiles'] at hupdate
          cases hupdate
  | ok files =>
      cases hfiles' : w'.files.update w.here path change' with
      | error e' =>
          rw [hfiles, hfiles'] at hupdate
          cases hupdate
      | ok files' =>
          rw [hfiles, hfiles'] at hupdate
          exact ⟨rfl, rfl, Except.ok.inj hupdate⟩

end SameNames

variable {w w' : Workspace} {path : Path} {change : List UInt8 → List UInt8}

/-- A file that was changed is there to be changed again. -/
theorem update_shape_of_changeFile (h : changeFile path change w = (.ok (), w'))
    (change' : List UInt8 → List UInt8) :
    (w'.files.update w'.here path change').map FileTree.shape = .ok w'.files.shape := by
  rw [changeFile] at h
  cases hfiles : w.files.update w.here path change with
  | error e =>
      rw [hfiles] at h
      cases h
  | ok files =>
      rw [hfiles] at h
      cases h
      exact FileTree.update_shape_of_update hfiles change'

theorem zeroInName_of_changeFile (h : changeFile path change w = (.error .zeroInName, w')) :
    '\x00' ∈ path.text.toList := by
  rw [changeFile] at h
  cases hfiles : w.files.update w.here path change with
  | error e =>
      rw [hfiles] at h
      cases h
      exact (FileTree.update_eq_zeroInName_iff _ _ _ _).1 hfiles
  | ok files =>
      rw [hfiles] at h
      cases h

end Workspace

/-! ## The log -/

namespace LogOutput

variable (detector : Charset.Detector) (further : Charset.Registry)

/-- Whether the file of a log is there to be added to. -/
def IsOpen (o : LogOutput) (w : Workspace) : Prop :=
  ∀ path, o.file = some path → ∀ change,
    (w.files.update w.here path change).map FileTree.shape = .ok w.files.shape

theorem IsOpen.of_sameNames {o : LogOutput} {w w' : Workspace} (ho : o.IsOpen w)
    (h : w.SameNames w') : o.IsOpen w' := by
  intro path hpath change
  rw [← h.shape, ← h.here, ← FileTree.update_shape h.shape w.here path change change]
  exact ho path hpath change

/-- Adding to the file of a log brings in no new names. -/
theorem IsOpen.sameNames_append {o : LogOutput} {w : Workspace} (ho : o.IsOpen w) {path : Path}
    (hpath : o.file = some path) (bytes : List UInt8) :
    w.SameNames (Workspace.changeFile path (· ++ bytes) w).2 := by
  have hshape := ho path hpath (· ++ bytes)
  rw [Workspace.changeFile]
  cases hfiles : w.files.update w.here path (· ++ bytes) with
  | error e => exact .refl w
  | ok files =>
      rw [hfiles] at hshape
      exact ⟨rfl, (Except.ok.inj hshape).symm⟩

/-- What showing a record does to a workspace: nothing, or a complaint that is added to
the file of the log as well. -/
theorem emit_cases (o : LogOutput) (record : Record) (w : Workspace) :
    (o.emit (Workspace.system detector further) record w).2 = w ∨
      ∃ complaints, (o.file = none ∧
          (o.emit (Workspace.system detector further) record w).2 = { w with complaints }) ∨
        ∃ path bytes, o.file = some path ∧
          (o.emit (Workspace.system detector further) record w).2 =
            (Workspace.changeFile path (· ++ bytes) { w with complaints }).2 := by
  rw [emit]
  split
  · dsimp only [bind, StateT.bind]
    rw [show (Workspace.system detector further).time w = (w.time, w) from rfl]
    dsimp only
    refine Or.inr ⟨w.complaints ++ o.form.line w.time record, ?_⟩
    generalize Charset.Utf8.encode (o.form.line w.time record).toList = bytes
    rw [show (Workspace.system detector further).complain (o.form.line w.time record) w =
      ((), { w with complaints := w.complaints ++ o.form.line w.time record }) from rfl]
    generalize w.complaints ++ o.form.line w.time record = complaints
    cases hfile : o.file with
    | none => exact Or.inl ⟨rfl, rfl⟩
    | some path =>
        refine Or.inr ⟨path, bytes, rfl, ?_⟩
        dsimp only [StateT.bind, pure, StateT.pure]
        rw [show (Workspace.system detector further).append path bytes =
          Workspace.changeFile path (· ++ bytes) from rfl]
        generalize Workspace.changeFile path (· ++ bytes) { w with complaints } = added
        rfl
  · exact Or.inl rfl

theorem sameNames_emit {o : LogOutput} {w : Workspace} (ho : o.IsOpen w) (record : Record) :
    w.SameNames (o.emit (Workspace.system detector further) record w).2 := by
  obtain hsame | ⟨complaints, ⟨-, hsaid⟩ | ⟨path, bytes, hfile, hadded⟩⟩ :=
    emit_cases detector further o record w
  · rw [hsame]
    exact .refl w
  · rw [hsaid]
    exact ⟨rfl, rfl⟩
  · have hcomplained : w.SameNames { w with complaints } := ⟨rfl, rfl⟩
    rw [hadded]
    exact hcomplained.trans
      ((ho.of_sameNames hcomplained).sameNames_append hfile bytes)

theorem sameNames_emitAll {o : LogOutput} {w : Workspace} (ho : o.IsOpen w) (records : Log) :
    w.SameNames (o.emitAll (Workspace.system detector further) records w).2 := by
  induction records generalizing w with
  | nil => exact .refl w
  | cons record records ih =>
      have hfirst := sameNames_emit detector further ho record
      exact hfirst.trans (ih (ho.of_sameNames hfirst))

variable {o : LogOutput} {w : Workspace}

theorem isOpen_of_none (h : o.file = none) : o.IsOpen w := by
  intro path hpath
  rw [h] at hpath
  cases hpath

/-- The file that is made a log's, by its name from the root. -/
def pathOf (w : Workspace) (name : String) : Path :=
  (Path.ofText name).absolute ("/" ++ "/".intercalate w.here)

/-- How giving a log a file ends: the file is there and a record says so, the system
refused it and a record says so, or its name is none. -/
theorem addFile_cases (o : LogOutput) (name : String) (w : Workspace) :
    ∃ outcome w', Workspace.changeFile (pathOf w name) (· ++ []) w = (outcome, w') ∧
      ((outcome = .ok () ∧ ∃ record, o.addFile (Workspace.system detector further) name w =
          (.ok { o with file := some (pathOf w name) },
            (emit (Workspace.system detector further) { o with file := some (pathOf w name) }
              record w').2)) ∨
        ∃ e, outcome = .error e ∧
          ((e.isSystemError = true ∧ ∃ record,
              o.addFile (Workspace.system detector further) name w =
                (.ok o, (o.emit (Workspace.system detector further) record w').2)) ∨
            e.isSystemError = false ∧ o.addFile (Workspace.system detector further) name w =
              (.error (.fault (e.fault (pathOf w name).text)), w'))) := by
  unfold addFile
  dsimp only [bind, StateT.bind, pure, StateT.pure]
  rw [show (Workspace.system detector further).here w = ("/" ++ "/".intercalate w.here, w) from rfl]
  dsimp only
  rw [show (Path.ofText name).absolute ("/" ++ "/".intercalate w.here) = pathOf w name from rfl]
  generalize pathOf w name = path
  rw [show (Workspace.system detector further).append path [] w =
    Workspace.changeFile path (· ++ []) w from rfl]
  generalize Workspace.changeFile path (· ++ []) w = added
  obtain ⟨outcome, w'⟩ := added
  cases outcome with
  | ok => exact ⟨_, _, rfl, Or.inl ⟨rfl, _, rfl⟩⟩
  | error e =>
      refine ⟨_, _, rfl, Or.inr ⟨e, rfl, ?_⟩⟩
      dsimp only
      split
      · next hsystem => exact Or.inl ⟨hsystem, _, rfl⟩
      · next hsystem => exact Or.inr ⟨Bool.eq_false_iff.2 hsystem, rfl⟩

/-- A log can be given a file of any name without a zero character, be it that the
system refuses it. -/
theorem exists_addFile (ho : o.file = none) {name : String}
    (hname : '\x00' ∉ (pathOf w name).text.toList) :
    ∃ o' w', o.addFile (Workspace.system detector further) name w = (.ok o', w') ∧
      o'.IsOpen w' := by
  obtain ⟨outcome, w', hchange, ⟨rfl, record, hadded⟩ |
    ⟨e, rfl, ⟨-, record, hadded⟩ | ⟨hsystem, -⟩⟩⟩ := addFile_cases detector further o name w
  · refine ⟨_, _, hadded, IsOpen.of_sameNames ?_ (sameNames_emit detector further ?_ _)⟩
    all_goals
      intro path hfile change
      rw [← Option.some.inj hfile]
      exact Workspace.update_shape_of_changeFile hchange change
  · exact ⟨o, _, hadded, isOpen_of_none ho⟩
  · -- without the system only a zero character is refused, and there is none in the name
    have hzero : e = .zeroInName := by
      cases e <;> first | rfl | cases hsystem
    rw [hzero] at hchange
    exact absurd (Workspace.zeroInName_of_changeFile hchange) hname

/-- With a zero character in the name nothing is done. -/
theorem addFile_of_zero (o : LogOutput) {name : String}
    (hname : '\x00' ∈ (pathOf w name).text.toList) :
    o.addFile (Workspace.system detector further) name w =
      (.error (.fault (FileError.zeroInName.fault (pathOf w name).text)), w) := by
  have hrefused : Workspace.changeFile (pathOf w name) (· ++ []) w = (.error .zeroInName, w) := by
    rw [Workspace.changeFile, (FileTree.update_eq_zeroInName_iff _ _ _ _).2 hname]
  obtain ⟨outcome, w', hchange, ⟨rfl, -⟩ | ⟨e, rfl, hadded⟩⟩ :=
    addFile_cases detector further o name w
  · rw [hrefused] at hchange
    cases hchange
  · rw [hrefused] at hchange
    cases hchange
    rcases hadded with ⟨hsystem, -⟩ | ⟨-, hadded⟩
    · cases hsystem
    · exact hadded

/-- A level that is known and a file without a zero character in its name are enough
to set a log up. -/
theorem exists_start {request : LevelRequest} {level : Int} (hlevel : request.resolve = .ok level)
    {file : Option String} (hfile : ∀ name, file.filter (!·.isEmpty) = some name →
      '\x00' ∉ (pathOf w name).text.toList) (traced : Bool) :
    ∃ o' w', start (Workspace.system detector further) request file traced w = (.ok o', w') ∧
      o'.IsOpen w' := by
  unfold start
  rw [hlevel]
  cases file with
  | none => exact ⟨_, w, rfl, isOpen_of_none rfl⟩
  | some name =>
      dsimp only
      split
      · exact ⟨_, w, rfl, isOpen_of_none rfl⟩
      · next hempty =>
          refine exists_addFile detector further rfl (hfile name ?_)
          rw [Option.filter_some, if_pos (by simpa using hempty)]

/-- A log is not set up for a file with a zero character in its name. -/
theorem start_of_zero {request : LevelRequest} {level : Int} (hlevel : request.resolve = .ok level)
    {file : Option String} {name : String} (hfile : file.filter (!·.isEmpty) = some name)
    (hname : '\x00' ∈ (pathOf w name).text.toList) (traced : Bool) :
    start (Workspace.system detector further) request file traced w =
      (.error (.fault (FileError.zeroInName.fault (pathOf w name).text)), w) := by
  obtain ⟨rfl, hnonempty⟩ := Option.filter_eq_some_iff.1 hfile
  unfold start
  rw [hlevel]
  dsimp only
  rw [if_neg (by simpa using hnonempty)]
  exact addFile_of_zero detector further _ hname

/-! ## Files that are no log -/

section

variable {changed : List String → Prop} (hhere : Path.IsDirectoryName w.here)

include hhere

theorem keepsBut_emit (ho : ∀ path, o.file = some path → changed (path.full w.here))
    (record : Record) :
    w.KeepsBut changed (o.emit (Workspace.system detector further) record w).2 := by
  obtain hsame | ⟨complaints, ⟨-, hsaid⟩ | ⟨path, bytes, hfile, hadded⟩⟩ :=
    emit_cases detector further o record w
  · rw [hsame]
    exact .refl w
  · rw [hsaid]
    exact ⟨rfl, rfl, rfl, .refl _⟩
  · have hcomplained : w.KeepsBut changed { w with complaints } := ⟨rfl, rfl, rfl, .refl _⟩
    rw [hadded]
    exact hcomplained.trans (@Workspace.KeepsBut.changeFile changed { w with complaints } hhere
      path (ho path hfile) (· ++ bytes))

theorem keepsBut_emitAll (ho : ∀ path, o.file = some path → changed (path.full w.here))
    (records : Log) :
    w.KeepsBut changed (o.emitAll (Workspace.system detector further) records w).2 := by
  induction records generalizing w with
  | nil => exact .refl w
  | cons record records ih =>
      have hfirst := keepsBut_emit detector further hhere ho record
      refine hfirst.trans (ih ?_ ?_)
      · rwa [hfirst.here]
      · rwa [hfirst.here]

/-- A file that is given to a log is named from the root and changed, and nothing
else is. -/
theorem keepsBut_addFile (ho : o.file = none) {name : String}
    (hname : changed ((Path.ofText name).full w.here)) :
    w.KeepsBut changed (o.addFile (Workspace.system detector further) name w).2 ∧
      ∀ o', (o.addFile (Workspace.system detector further) name w).1 = .ok o' →
        ∀ path, o'.file = some path → changed (path.full w.here) := by
  have hpath : changed ((pathOf w name).full w.here) := by
    rw [pathOf, Path.full_absolute hhere]
    exact hname
  have hkept : w.KeepsBut changed (Workspace.changeFile (pathOf w name) (· ++ []) w).2 :=
    .changeFile hhere hpath _
  obtain ⟨outcome, w', hchange, ⟨-, record, hadded⟩ |
    ⟨e, -, ⟨-, record, hadded⟩ | ⟨-, hadded⟩⟩⟩ := addFile_cases detector further o name w
  all_goals
    rw [hchange] at hkept
    rw [hadded]
    dsimp only at hkept ⊢
    have hhere' : Path.IsDirectoryName w'.here := by rwa [hkept.here]
  · have hfile : ∀ path, some (pathOf w name) = some path → changed (path.full w.here) := by
      intro path hfile
      rw [← Option.some.inj hfile]
      exact hpath
    refine ⟨hkept.trans (keepsBut_emit detector further hhere' ?_ record), ?_⟩
    · rw [hkept.here]
      exact hfile
    · intro o' ho'
      cases ho'
      exact hfile
  · have hnone : ∀ here path, o.file = some path → changed (path.full here) := by
      intro here path hfile
      rw [ho] at hfile
      cases hfile
    refine ⟨hkept.trans (keepsBut_emit detector further hhere' (hnone w'.here) record), ?_⟩
    intro o' ho'
    cases ho'
    exact hnone w.here
  · refine ⟨hkept, ?_⟩
    intro o' ho'
    cases ho'

/-- Setting a log up changes its own file only. -/
theorem keepsBut_start {request : LevelRequest} {file : Option String} {traced : Bool}
    (hfile : ∀ name, file = some name → name.isEmpty = false →
      changed ((Path.ofText name).full w.here)) :
    w.KeepsBut changed (start (Workspace.system detector further) request file traced w).2 ∧
      ∀ o', (start (Workspace.system detector further) request file traced w).1 = .ok o' →
        ∀ path, o'.file = some path → changed (path.full w.here) := by
  have hunset : ∀ level (o' : LogOutput), Except.ok { level, traced } =
      (Except.ok o' : Except Failure LogOutput) →
        ∀ path, o'.file = some path → changed (path.full w.here) := by
    intro level o' ho' path hpath
    cases ho'
    cases hpath
  unfold start
  cases request.resolve with
  | error fault => exact ⟨.refl w, nofun⟩
  | ok level =>
      cases file with
      | none => exact ⟨.refl w, hunset level⟩
      | some name =>
          dsimp only
          split
          · exact ⟨.refl w, hunset level⟩
          · next hname =>
              exact keepsBut_addFile detector further hhere rfl
                (hfile name rfl (Bool.eq_false_iff.2 hname))

end

end LogOutput

end TypstPress
