import TypstPress.Files.Workspace
import TypstPress.Proofs.Files.FileTree

/-!
# What a change of one file leaves alone

A file that is written is the only thing that is different afterwards. This takes
an argument, because a tree of files knows its directories by what is in them: a
new file could bring a directory into being above it, and a name that led nowhere
would lead somewhere. It does not, since a name only leads to a place whose
directories are there already (`at?_ne_none_of_follow`). `AgreesBut` is what
remains: two trees with the same directories, and the same at every name but the
ones that may have changed. Any other file reads the same in both
(`AgreesBut.read_eq_ok_iff`).

Which file a name leads to is decided by the tree, but no two trees disagree, so
it can be told from names alone. `Path.full` is the name from the root with every
`..` taken away, and `full_of_place` says that it is where a name leads if it
leads anywhere inside. Names are told apart in this way, and a log, which is
named from the root when it is opened, keeps its full name (`full_absolute`).
-/

namespace TypstPress

/-! ## Names from the root -/

namespace Path

/-- Whether components are those of a directory as the system names it. -/
def IsDirectoryName (here : List String) : Prop :=
  ∀ c ∈ here, c ≠ "" ∧ c ≠ "." ∧ c ≠ ".." ∧ '/' ∉ c.toList ∧ '\x00' ∉ c.toList

/-- The components of a file name from the root, for a current directory. -/
def full (here : List String) (p : Path) : List String :=
  (p.absolute ("/" ++ "/".intercalate here)).components

theorem parts_ne_nil (cs : List Char) : parts cs ≠ [] := by
  cases cs with
  | nil => simp [parts]
  | cons c cs =>
      rw [parts]
      split
      · simp
      · split <;> simp

theorem parts_slash_cons (rest : List Char) : parts ('/' :: rest) = [] :: parts rest := by
  rw [parts]
  cases hrest : parts rest with
  | nil => exact absurd hrest (parts_ne_nil rest)
  | cons part more => rfl

theorem parts_append_slash {cs : List Char} (h : '/' ∉ cs) (rest : List Char) :
    parts (cs ++ '/' :: rest) = cs :: parts rest := by
  induction cs with
  | nil => exact parts_slash_cons rest
  | cons c cs ih =>
      rw [List.mem_cons, not_or] at h
      rw [List.cons_append, parts, ih h.2]
      dsimp only
      rw [if_neg (by simpa using Ne.symm h.1)]

theorem parts_of_not_mem {cs : List Char} (h : '/' ∉ cs) : parts cs = [cs] := by
  induction cs with
  | nil => rfl
  | cons c cs ih =>
      rw [List.mem_cons, not_or] at h
      rw [parts, ih h.2]
      dsimp only
      rw [if_neg (by simpa using Ne.symm h.1)]

theorem parts_intercalate {first : String} {components : List String}
    (h : ∀ c ∈ first :: components, '/' ∉ c.toList) :
    parts ("/".intercalate (first :: components)).toList =
      (first :: components).map String.toList := by
  induction components generalizing first with
  | nil =>
      rw [String.intercalate_singleton]
      exact parts_of_not_mem (h first List.mem_cons_self)
  | cons second components ih =>
      have hslash : "/".toList = ['/'] := rfl
      rw [String.intercalate_cons_cons, String.toList_append, String.toList_append, hslash,
        List.append_assoc, List.singleton_append, parts_append_slash (h first List.mem_cons_self),
        ih fun c hc => h c (List.mem_cons_of_mem _ hc)]
      rfl

theorem components_ofText_directory {here : List String} (h : IsDirectoryName here) :
    (ofText ("/" ++ "/".intercalate here)).components = here := by
  have hparts : (parts ("/" ++ "/".intercalate here).toList).map String.ofList =
      "" :: if here.isEmpty then [""] else here := by
    have hslash : "/".toList = ['/'] := rfl
    rw [String.toList_append, hslash, List.singleton_append, parts_slash_cons, List.map_cons]
    cases here with
    | nil => rfl
    | cons first components =>
        rw [parts_intercalate fun c hc => (h c hc).2.2.2.1, List.map_map]
        simp
  rw [ofText]
  dsimp only
  rw [hparts]
  cases here with
  | nil => rfl
  | cons first components =>
      rw [List.isEmpty_cons, if_neg Bool.false_ne_true, List.filter_cons_of_neg (by decide),
        List.filter_eq_self]
      intro c hc
      simp [(h c hc).1, (h c hc).2.1]

/-! ### Names with every step up taken away -/

theorem collapse_of_not_mem {components : List String} (h : ".." ∉ components)
    (done : List String) : collapse done components = done.reverse ++ components := by
  induction components generalizing done with
  | nil => simp [collapse]
  | cons c components ih =>
      rw [List.mem_cons, not_or] at h
      rw [collapse, ih h.2]
      · simp
      · exact Ne.symm h.1

theorem collapse_append_of_not_mem {components : List String} (h : ".." ∉ components)
    (done rest : List String) :
    collapse done (components ++ rest) = collapse (components.reverse ++ done) rest := by
  induction components generalizing done with
  | nil => rfl
  | cons c components ih =>
      rw [List.mem_cons, not_or] at h
      rw [List.cons_append, collapse, ih h.2]
      · simp
      · exact Ne.symm h.1

theorem not_mem_collapse {done : List String} (h : ".." ∉ done) (components : List String) :
    ".." ∉ collapse done components := by
  induction components generalizing done with
  | nil => simpa [collapse] using h
  | cons c components ih =>
      by_cases hc : c = ".."
      · rw [hc, collapse]
        exact ih fun hmem => h (List.mem_of_mem_drop hmem)
      · rw [collapse]
        · refine ih ?_
          rw [List.mem_cons, not_or]
          exact ⟨Ne.symm hc, h⟩
        · exact hc

section

variable {here : List String} (hhere : IsDirectoryName here)

include hhere

theorem not_mem_of_isDirectoryName : ".." ∉ here := fun hup => (hhere _ hup).2.2.1 rfl

theorem full_of_root_eq_zero {p : Path} (hp : p.root = 0) :
    p.full here = collapse here.reverse p.components := by
  rw [full, absolute, if_pos (by rw [hp]; rfl), components_ofText_directory hhere]

omit hhere in
theorem full_of_root_ne_zero {p : Path} (hp : p.root ≠ 0) :
    p.full here = collapse [] p.components := by
  rw [full, absolute, if_neg (by simpa using hp)]

/-- A name that is given from the root keeps its full name. -/
theorem full_absolute (p : Path) :
    (p.absolute ("/" ++ "/".intercalate here)).full here = p.full here := by
  have hroot : (p.absolute ("/" ++ "/".intercalate here)).root ≠ 0 := by
    rw [absolute]
    split
    · exact Nat.one_ne_zero
    · next h => simpa using h
  have hup : ".." ∉ p.full here := by
    by_cases hp : p.root = 0
    · rw [full_of_root_eq_zero hhere hp]
      refine not_mem_collapse ?_ _
      rw [List.mem_reverse]
      exact not_mem_of_isDirectoryName hhere
    · rw [full_of_root_ne_zero hp]
      exact not_mem_collapse (by simp) _
  rw [full_of_root_ne_zero hroot]
  show collapse [] (p.full here) = p.full here
  rw [collapse_of_not_mem hup]
  rfl

end

end Path

/-! ## Where names lead -/

namespace FileTree

theorem collapse_of_follow {tree : FileTree} {dir components name : List String}
    (h : tree.follow dir components = .ok (.inside name)) (here : List String) :
    Path.collapse (here ++ dir).reverse components = here ++ name := by
  -- `dir` is where the components before these have led
  induction components generalizing dir with
  | nil =>
      cases h
      rw [Path.collapse, List.reverse_reverse]
  | cons c components ih =>
      rw [follow] at h
      split at h
      · cases h
      · split at h
        · next hup =>
            rw [beq_iff_eq] at hup
            split at h
            · split at h <;> cases h
            · next hdir =>
                obtain ⟨front, last, rfl⟩ :=
                  (List.eq_nil_or_concat dir).resolve_left (by simpa using hdir)
                rw [hup, Path.collapse, ← ih h]
                simp
        · next hdown =>
            have hstep : c :: (here ++ dir).reverse = (here ++ (dir ++ [c])).reverse := by simp
            rw [Path.collapse, hstep]
            · dsimp only at h
              split at h
              · next hlast =>
                  cases h
                  rw [List.isEmpty_iff.1 hlast, Path.collapse, List.reverse_reverse]
              · split at h
                · exact ih h
                · cases h
                · cases h
            · simpa using hdown

/-- A name leads to its full name, if it leads anywhere inside. -/
theorem full_of_place {tree : FileTree} {here name : List String} {p : Path}
    (hhere : Path.IsDirectoryName here) (h : tree.place here p = .ok (.inside name)) :
    p.full here = here ++ name := by
  rw [place] at h
  split at h
  · cases h
  · split at h
    · cases h
    · split at h
      · next hroot =>
          rw [Path.full_of_root_eq_zero hhere (by simpa using hroot), ← collapse_of_follow h here,
            List.append_nil]
      · next hroot =>
          rw [Path.full_of_root_ne_zero (by simpa using hroot)]
          split at h
          · next hbelow =>
              obtain ⟨rest, hrest⟩ := List.isPrefixOf_iff_prefix.1 hbelow
              rw [← hrest, List.drop_left] at h
              rw [← hrest, Path.collapse_append_of_not_mem (Path.not_mem_of_isDirectoryName hhere),
                ← collapse_of_follow h here, List.append_nil, List.append_nil]
          · unfold placeOutside at h
            split at h <;> cases h

/-- A name that leads to a place leads through what is there. -/
theorem at?_ne_none_of_follow {tree : FileTree} {dir components name : List String}
    (h : tree.follow dir components = .ok (.inside name))
    (hdir : ∀ above, above <+: dir → tree.at? above ≠ none) {above : List String}
    (habove : above <+: name) (hne : above ≠ name) : tree.at? above ≠ none := by
  induction components generalizing dir with
  | nil =>
      cases h
      exact hdir above habove
  | cons c components ih =>
      rw [follow] at h
      split at h
      · cases h
      · split at h
        · split at h
          · split at h <;> cases h
          · exact ih h fun above habove => hdir above (habove.trans (List.dropLast_prefix dir))
        · dsimp only at h
          split at h
          · cases h
            rcases List.prefix_concat_iff.1 habove with heq | habove
            · exact absurd heq hne
            · exact hdir above habove
          · split at h
            · next hat =>
                refine ih h fun above habove => ?_
                rcases List.prefix_concat_iff.1 habove with rfl | habove
                · rw [hat]
                  exact Option.some_ne_none _
                · exact hdir above habove
            · cases h
            · cases h

theorem at?_nil_ne_none (tree : FileTree) : tree.at? [] ≠ none := by
  rw [at?]
  split
  · exact Option.some_ne_none _
  · simp

theorem at?_ne_none_of_place {tree : FileTree} {here name above : List String} {p : Path}
    (h : tree.place here p = .ok (.inside name)) (habove : above <+: name) (hne : above ≠ name) :
    tree.at? above ≠ none := by
  have hroot : ∀ above, above <+: [] → tree.at? above ≠ none := by
    intro above habove
    rw [List.prefix_nil.1 habove]
    exact at?_nil_ne_none tree
  rw [place] at h
  split at h
  · cases h
  · split at h
    · cases h
    · split at h
      · exact at?_ne_none_of_follow h hroot habove hne
      · split at h
        · exact at?_ne_none_of_follow h hroot habove hne
        · unfold placeOutside at h
          split at h <;> cases h

/-! ## Trees that agree -/

/-- Whether trees have the same directories, and the same at each name but those
that may have changed. -/
structure AgreesBut (changed : List String → Prop) (tree tree' : FileTree) : Prop where
  directory_iff : ∀ name, tree.at? name = some .directory ↔ tree'.at? name = some .directory
  at?_eq : ∀ name, ¬ changed name → tree.at? name = tree'.at? name

namespace AgreesBut

variable {changed : List String → Prop} {tree tree' tree'' : FileTree}

theorem refl (tree : FileTree) : tree.AgreesBut changed tree := ⟨fun _ => .rfl, fun _ _ => rfl⟩

theorem symm (h : tree.AgreesBut changed tree') : tree'.AgreesBut changed tree :=
  ⟨fun name => (h.directory_iff name).symm, fun name hname => (h.at?_eq name hname).symm⟩

theorem trans (h : tree.AgreesBut changed tree') (h' : tree'.AgreesBut changed tree'') :
    tree.AgreesBut changed tree'' :=
  ⟨fun name => (h.directory_iff name).trans (h'.directory_iff name),
    fun name hname => (h.at?_eq name hname).trans (h'.at?_eq name hname)⟩

theorem mono {changed' : List String → Prop} (h : tree.AgreesBut changed tree')
    (hchanged : ∀ name, changed name → changed' name) : tree.AgreesBut changed' tree' :=
  ⟨h.directory_iff, fun name hname => h.at?_eq name fun h => hname (hchanged name h)⟩

theorem follow_eq_ok (h : tree.AgreesBut changed tree') {dir components : List String}
    {place : Place} (hplace : tree.follow dir components = .ok place) :
    tree'.follow dir components = .ok place := by
  induction components generalizing dir with
  | nil => exact hplace
  | cons c components ih =>
      rw [follow] at hplace ⊢
      split at hplace
      · cases hplace
      · next hlimit =>
          rw [if_neg hlimit]
          split at hplace
          · next hup =>
              rw [if_pos hup]
              split at hplace
              · next hdir =>
                  rw [if_pos hdir]
                  exact hplace
              · next hdir =>
                  rw [if_neg hdir]
                  exact ih hplace
          · next hdown =>
              rw [if_neg hdown]
              dsimp only at hplace ⊢
              split at hplace
              · next hlast =>
                  rw [if_pos hlast]
                  exact hplace
              · next hlast =>
                  rw [if_neg hlast]
                  split at hplace
                  · next hat =>
                      rw [(h.directory_iff _).1 hat]
                      exact ih hplace
                  · cases hplace
                  · cases hplace

theorem place_eq_ok (h : tree.AgreesBut changed tree') {here : List String} {p : Path}
    {place : Place} (hplace : tree.place here p = .ok place) : tree'.place here p = .ok place := by
  rw [FileTree.place] at hplace ⊢
  split at hplace
  · cases hplace
  · next hzero =>
      rw [if_neg hzero]
      split at hplace
      · cases hplace
      · next hlong =>
          rw [if_neg hlong]
          split at hplace
          · next hroot =>
              rw [if_pos hroot]
              exact h.follow_eq_ok hplace
          · next hroot =>
              rw [if_neg hroot]
              split at hplace
              · next hbelow =>
                  rw [if_pos hbelow]
                  exact h.follow_eq_ok hplace
              · next hbelow =>
                  rw [if_neg hbelow]
                  exact hplace

theorem read_eq_ok (h : tree.AgreesBut changed tree') {here : List String} {p : Path}
    (hp : ∀ name, tree.place here p = .ok (.inside name) → ¬ changed name) {bytes : List UInt8}
    (hread : tree.read here p = .ok bytes) : tree'.read here p = .ok bytes := by
  rw [read] at hread ⊢
  cases hplace : tree.place here p with
  | error e =>
      rw [hplace] at hread
      cases hread
  | ok place =>
      rw [hplace] at hread
      rw [h.place_eq_ok hplace]
      cases place with
      | nullDevice => exact hread
      | outside => exact hread
      | inside name =>
          dsimp only [bind, Except.bind] at hread ⊢
          rw [← h.at?_eq name (hp name hplace)]
          exact hread

/-- A file of another name reads the same. -/
theorem read_eq_ok_iff (h : tree.AgreesBut changed tree') {here : List String} {p : Path}
    (hp : ∀ name, tree.place here p = .ok (.inside name) → ¬ changed name) {bytes : List UInt8} :
    tree.read here p = .ok bytes ↔ tree'.read here p = .ok bytes := by
  refine ⟨h.read_eq_ok hp, h.symm.read_eq_ok ?_⟩
  intro name hname
  exact hp name (h.symm.place_eq_ok hname)

end AgreesBut

/-! ## Changes -/

theorem any_put_eq_false {tree : FileTree} {q : List String → Bool}
    (h : tree.any (q ·.1) = false) {name : List String} (hname : q name = false) (entry : Entry) :
    (tree.put name entry).any (q ·.1) = false := by
  induction tree with
  | nil => rw [put, List.any_cons, hname, List.any_nil, Bool.or_false]
  | cons e tree ih =>
      obtain ⟨n, entry'⟩ := e
      rw [List.any_cons, Bool.or_eq_false_iff] at h
      rw [put]
      split
      · rw [List.any_cons, Bool.or_eq_false_iff]
        exact ⟨hname, h.2⟩
      · rw [List.any_cons, Bool.or_eq_false_iff]
        exact ⟨h.1, ih h.2⟩

/-- Below directories that are there, a file that is put changes nothing but what is
at its name. -/
theorem at?_put_of_ne {tree : FileTree} {name other : List String}
    (habove : other <+: name → tree.at? other ≠ none) (hne : other ≠ name) (entry : Entry) :
    (tree.put name entry).at? other = tree.at? other := by
  rw [at?, at?, lookup_put tree hne]
  cases hlookup : tree.lookup other with
  | some entry' => rfl
  | none =>
      dsimp only
      -- a name without an entry is a directory if something is below it, so a new file
      -- matters to it only when the file is below it
      by_cases hempty : other.isEmpty = true
      · rw [hempty, Bool.true_or, Bool.true_or]
      · rw [Bool.eq_false_iff.2 hempty, Bool.false_or, Bool.false_or]
        cases hany : tree.any fun e => other.isPrefixOf e.1 with
        | true =>
            rw [any_put (q := fun n => other.isPrefixOf n) hany]
        | false =>
            have hnot : other.isPrefixOf name = false := by
              rw [Bool.eq_false_iff]
              intro hprefix
              refine habove (List.isPrefixOf_iff_prefix.1 hprefix) ?_
              rw [at?, hlookup]
              dsimp only
              rw [Bool.eq_false_iff.2 hempty, hany]
              rfl
            rw [any_put_eq_false (q := fun n => other.isPrefixOf n) hany hnot]

theorem at?_put_self (tree : FileTree) (name : List String) (entry : Entry) :
    (tree.put name entry).at? name = some entry := by
  rw [at?, lookup_put_self]

theorem agreesBut_put {tree : FileTree} {here name : List String} {p : Path}
    (hplace : tree.place here p = .ok (.inside name)) (hfile : tree.at? name ≠ some .directory)
    (bytes : List UInt8) : tree.AgreesBut (· = name) (tree.put name (.file bytes)) := by
  have hother : ∀ other, other ≠ name →
      tree.at? other = (tree.put name (.file bytes)).at? other := by
    intro other hne
    exact (at?_put_of_ne (fun habove => at?_ne_none_of_place hplace habove hne) hne _).symm
  refine ⟨fun other => ?_, hother⟩
  by_cases hname : other = name
  · rw [hname, at?_put_self]
    exact iff_of_false hfile (by simp)
  · rw [hother other hname]

variable {tree tree' : FileTree} {here : List String} {p : Path}

/-- A file that is changed is the only thing that is different then. -/
theorem agreesBut_update {change : List UInt8 → List UInt8}
    (h : tree.update here p change = .ok tree') :
    tree.AgreesBut (fun name => tree.place here p = .ok (.inside name)) tree' := by
  rw [update] at h
  cases hplace : tree.place here p with
  | error e =>
      rw [hplace] at h
      cases h
  | ok place =>
      rw [hplace] at h
      cases place with
      | outside => cases h
      | nullDevice =>
          cases h
          exact .refl tree
      | inside name =>
          have hsame : ∀ other, other = name →
              (Except.ok (Place.inside name) : Except FileError Place) = .ok (.inside other) := by
            rintro _ rfl
            rfl
          dsimp only [bind, Except.bind] at h
          cases hat : tree.at? name with
          | some entry =>
              rw [hat] at h
              cases entry with
              | directory => cases h
              | file bytes =>
                  cases h
                  exact (agreesBut_put hplace (by simp [hat]) _).mono hsame
          | none =>
              rw [hat] at h
              cases h
              exact (agreesBut_put hplace (by simp [hat]) _).mono hsame

/-- What is written is read again, but for the device that keeps nothing. -/
theorem read_of_update {bytes : List UInt8}
    (h : tree.update here p (fun _ => bytes) = .ok tree') :
    tree'.read here p = .ok bytes ∨ tree'.place here p = .ok .nullDevice := by
  have hagrees := agreesBut_update h
  rw [update] at h
  cases hplace : tree.place here p with
  | error e =>
      rw [hplace] at h
      cases h
  | ok place =>
      rw [hplace] at h
      have hplace' := hagrees.place_eq_ok hplace
      cases place with
      | outside => cases h
      | nullDevice => exact Or.inr hplace'
      | inside name =>
          refine Or.inl ?_
          have hat : tree'.at? name = some (.file bytes) := by
            dsimp only [bind, Except.bind] at h
            split at h
            · cases h
              exact at?_put_self tree name _
            · cases h
            · cases h
              exact at?_put_self tree name _
          rw [read, hplace']
          dsimp only [bind, Except.bind]
          rw [hat]

end FileTree

/-! ## Workspaces -/

namespace Workspace

/-- Whether a workspace has the directory, the input, the output and the files of
another, but for files of full names that may have changed. -/
structure KeepsBut (changed : List String → Prop) (w w' : Workspace) : Prop where
  here : w'.here = w.here
  input : w'.input = w.input
  output : w'.output = w.output
  files : w.files.AgreesBut (fun name => changed (w.here ++ name)) w'.files

/-- Whether a file holds bytes, or is the device that keeps nothing. -/
def Holds (w : Workspace) (name : String) (bytes : List UInt8) : Prop :=
  w.files.read w.here (Path.ofText name) = .ok bytes ∨
    w.files.place w.here (Path.ofText name) = .ok .nullDevice

namespace KeepsBut

variable {changed : List String → Prop} {w w' w'' : Workspace}

theorem refl (w : Workspace) : w.KeepsBut changed w := ⟨rfl, rfl, rfl, .refl _⟩

theorem trans (h : w.KeepsBut changed w') (h' : w'.KeepsBut changed w'') :
    w.KeepsBut changed w'' := by
  have hfiles := h'.files
  rw [h.here] at hfiles
  exact ⟨h'.here.trans h.here, h'.input.trans h.input, h'.output.trans h.output,
    h.files.trans hfiles⟩

theorem mono {changed' : List String → Prop} (h : w.KeepsBut changed w')
    (hchanged : ∀ full, changed full → changed' full) : w.KeepsBut changed' w' :=
  ⟨h.here, h.input, h.output, h.files.mono fun name => hchanged (w.here ++ name)⟩

variable (hhere : Path.IsDirectoryName w.here)

include hhere

theorem changeFile {p : Path} (hp : changed (p.full w.here)) (change : List UInt8 → List UInt8) :
    w.KeepsBut changed (Workspace.changeFile p change w).2 := by
  rw [Workspace.changeFile]
  cases hfiles : w.files.update w.here p change with
  | error e => exact .refl w
  | ok files =>
      have hagrees := FileTree.agreesBut_update hfiles
      refine ⟨rfl, rfl, rfl, hagrees.directory_iff, fun name hname => hagrees.at?_eq name ?_⟩
      intro hplace
      rw [FileTree.full_of_place hhere hplace] at hp
      exact hname hp

/-- A file reads the same if its full name is not one that may have changed. -/
theorem read_eq_ok_iff (h : w.KeepsBut changed w') {p : Path} (hp : ¬ changed (p.full w.here))
    {bytes : List UInt8} :
    w.files.read w.here p = .ok bytes ↔ w'.files.read w'.here p = .ok bytes := by
  rw [h.here]
  refine h.files.read_eq_ok_iff fun name hplace => ?_
  rwa [← FileTree.full_of_place hhere hplace]

theorem holds (h : w.KeepsBut changed w') {name : String}
    (hname : ¬ changed ((Path.ofText name).full w.here)) {bytes : List UInt8}
    (hholds : w.Holds name bytes) : w'.Holds name bytes := by
  rcases hholds with hread | hplace
  · exact Or.inl ((h.read_eq_ok_iff hhere hname).1 hread)
  · refine Or.inr ?_
    rw [h.here]
    exact h.files.place_eq_ok hplace

end KeepsBut

end Workspace

end TypstPress
