import TypstPress.Files.FileTree

/-!
# What decides whether a file can be used

Two questions about a file name have answers that do not depend on what the
files hold. A name with a zero character is refused before anything else, by
every tree (`read_eq_zeroInName_iff`, `update_eq_zeroInName_iff`), and a name has
one exactly if the text that it is read from has (`Path.zero_mem_text_ofText_iff`).

Where a file can be written depends on which names are files and which are
directories, and on nothing else. `shape` is a tree with its contents
forgotten; trees of one shape refuse the same names for the same reasons, and
what is written to them leaves trees of one shape (`update_shape`). Adding to a
file that could be written once leaves the shape as it is
(`update_shape_of_update`), so that a log never stands in the way of the output.
-/

namespace TypstPress

/-! ## Zero characters in names -/

namespace Path

theorem exists_mem_parts_iff {c : Char} (hc : c ≠ '/') (cs : List Char) :
    (∃ part ∈ parts cs, c ∈ part) ↔ c ∈ cs := by
  induction cs with
  | nil => simp [parts]
  | cons d cs ih =>
      rw [parts]
      cases hparts : parts cs with
      | nil =>
          rw [hparts] at ih
          rw [List.mem_cons, ← ih]
          simp
      | cons part more =>
          rw [hparts] at ih
          rw [List.mem_cons, ← ih]
          by_cases hd : d = '/'
          · simp [hd, hc]
          · simp [hd, or_assoc]

theorem mem_intercalate_iff {c : Char} (hc : c ≠ '/') (components : List String) :
    c ∈ ("/".intercalate components).toList ↔ ∃ component ∈ components, c ∈ component.toList := by
  induction components with
  | nil => simp
  | cons first components ih =>
      cases components with
      | nil => simp
      | cons second components =>
          rw [String.toList_intercalate] at ih ⊢
          rw [List.map_cons, List.map_cons, List.intercalate_cons_cons, ← List.map_cons,
            List.mem_append, List.mem_append, ih]
          simp [hc]

/-- Signs other than slashes and points are found in a name as it is shown
exactly when they are found in a component. -/
theorem mem_text_iff {c : Char} (hslash : c ≠ '/') (hpoint : c ≠ '.') (p : Path) :
    c ∈ p.text.toList ↔ ∃ component ∈ p.components, c ∈ component.toList := by
  rw [text, ← mem_intercalate_iff hslash]
  have hstart : c ∉ List.replicate p.root '/' := fun h => hslash (List.eq_of_mem_replicate h)
  split
  · next hempty =>
      have hnil := congrArg String.toList (String.isEmpty_iff.1 hempty)
      rw [String.toList_append] at hnil
      rw [(List.append_eq_nil_iff.1 hnil).2]
      simp [hpoint]
  · simp [hstart]

/-- A name has a zero character where the text that it was read from has one. -/
theorem zero_mem_text_ofText_iff (name : String) :
    '\x00' ∈ (ofText name).text.toList ↔ '\x00' ∈ name.toList := by
  rw [mem_text_iff (by decide) (by decide), ← exists_mem_parts_iff (by decide) name.toList]
  constructor
  · rintro ⟨component, hcomponent, hzero⟩
    obtain ⟨part, hpart, rfl⟩ := List.mem_map.1 (List.mem_filter.1 hcomponent).1
    rw [String.toList_ofList] at hzero
    exact ⟨part, hpart, hzero⟩
  · rintro ⟨part, hpart, hzero⟩
    refine ⟨String.ofList part, List.mem_filter.2 ⟨List.mem_map_of_mem hpart, ?_⟩, ?_⟩
    · -- the components that do not count have no zero character
      have hne : ∀ s : String, '\x00' ∉ s.toList → String.ofList part ≠ s := by
        rintro s hs rfl
        rw [String.toList_ofList] at hs
        exact hs hzero
      simp [hne "" (by decide), hne "." (by decide)]
    · rw [String.toList_ofList]
      exact hzero

end Path

namespace FileTree

theorem follow_ne_zeroInName (tree : FileTree) (dir components : List String) :
    tree.follow dir components ≠ .error .zeroInName := by
  induction components generalizing dir with
  | nil => exact nofun
  | cons c components ih =>
      rw [follow]
      split
      · exact nofun
      · split
        · split
          · split <;> exact nofun
          · exact ih _
        · dsimp only
          split
          · exact nofun
          · split
            · exact ih _
            · exact nofun
            · exact nofun

theorem placeOutside_ne_zeroInName (components : List String) :
    placeOutside components ≠ .error .zeroInName := by
  unfold placeOutside
  split <;> exact nofun

variable (tree : FileTree) (here : List String) (p : Path)

/-- Names with a zero character are refused, and for this reason no others. -/
theorem place_eq_zeroInName_iff :
    tree.place here p = .error .zeroInName ↔ '\x00' ∈ p.text.toList := by
  rw [← List.contains_iff_mem, place]
  split
  · next hzero => exact ⟨fun _ => hzero, fun _ => rfl⟩
  · next hzero =>
      refine ⟨fun h => ?_, fun h => absurd h hzero⟩
      split at h
      · cases h
      · split at h
        · exact absurd h (follow_ne_zeroInName _ _ _)
        · split at h
          · exact absurd h (follow_ne_zeroInName _ _ _)
          · exact absurd h (placeOutside_ne_zeroInName _)

theorem read_eq_zeroInName_iff :
    tree.read here p = .error .zeroInName ↔ '\x00' ∈ p.text.toList := by
  rw [← place_eq_zeroInName_iff tree here p, read]
  cases tree.place here p with
  | error e =>
      constructor
      · rintro ⟨⟩
        rfl
      · rintro ⟨⟩
        rfl
  | ok place =>
      refine ⟨fun h => ?_, nofun⟩
      cases place with
      | nullDevice => cases h
      | outside => cases h
      | inside name =>
          dsimp only [bind, Except.bind] at h
          split at h <;> cases h

theorem update_eq_zeroInName_iff (change : List UInt8 → List UInt8) :
    tree.update here p change = .error .zeroInName ↔ '\x00' ∈ p.text.toList := by
  rw [← place_eq_zeroInName_iff tree here p, update]
  cases tree.place here p with
  | error e =>
      constructor
      · rintro ⟨⟩
        rfl
      · rintro ⟨⟩
        rfl
  | ok place =>
      refine ⟨fun h => ?_, nofun⟩
      cases place with
      | nullDevice => cases h
      | outside => cases h
      | inside name =>
          dsimp only [bind, Except.bind] at h
          split at h <;> cases h

/-! ## Trees of one shape -/

end FileTree

/-- Whether the entry is a file. -/
def Entry.isFile : Entry → Bool
  | .file _ => true
  | .directory => false

namespace FileTree

/-- The names in a tree and whether each is that of a file. -/
def shape (tree : FileTree) : List (List String × Bool) :=
  tree.map fun e => (e.1, e.2.isFile)

theorem lookup_shape (tree : FileTree) (name : List String) :
    tree.shape.lookup name = (tree.lookup name).map Entry.isFile := by
  induction tree with
  | nil => rfl
  | cons e tree ih =>
      rw [shape, List.map_cons, List.lookup_cons, List.lookup_cons]
      cases name == e.1 with
      | true => rfl
      | false => exact ih

theorem at?_shape (tree : FileTree) (name : List String) :
    (tree.at? name).map Entry.isFile =
      match tree.shape.lookup name with
      | some isFile => some isFile
      | none =>
        if name.isEmpty || tree.shape.any fun e => name.isPrefixOf e.1 then some false
        else none := by
  rw [at?, lookup_shape, shape, List.any_map]
  cases tree.lookup name with
  | some entry => rfl
  | none =>
      dsimp only [Option.map_none, Function.comp_def]
      split <;> rfl

/-- Trees of one shape have the same at each name, up to what files hold. -/
theorem at?_cases {tree tree' : FileTree} (h : tree.shape = tree'.shape) (name : List String) :
    (tree.at? name = none ∧ tree'.at? name = none) ∨
      (tree.at? name = some .directory ∧ tree'.at? name = some .directory) ∨
      ∃ bytes bytes', tree.at? name = some (.file bytes) ∧ tree'.at? name = some (.file bytes') := by
  have hname : (tree.at? name).map Entry.isFile = (tree'.at? name).map Entry.isFile := by
    rw [at?_shape, at?_shape, h]
  cases hat : tree.at? name with
  | none =>
      rw [hat] at hname
      exact Or.inl ⟨rfl, Option.map_eq_none_iff.1 hname.symm⟩
  | some entry =>
      rw [hat] at hname
      obtain ⟨entry', hat', hfile⟩ := Option.map_eq_some_iff.1 hname.symm
      rw [hat']
      cases entry with
      | file bytes =>
          cases entry' with
          | file bytes' => exact Or.inr (Or.inr ⟨bytes, bytes', rfl, rfl⟩)
          | directory => cases hfile
      | directory =>
          cases entry' with
          | file bytes' => cases hfile
          | directory => exact Or.inr (Or.inl ⟨rfl, rfl⟩)

theorem follow_congr {tree tree' : FileTree} (h : tree.shape = tree'.shape)
    (dir components : List String) :
    tree.follow dir components = tree'.follow dir components := by
  induction components generalizing dir with
  | nil => rfl
  | cons c components ih =>
      rw [follow, follow]
      dsimp only
      rw [ih, ih]
      rcases at?_cases h (dir ++ [c]) with ⟨hat, hat'⟩ | ⟨hat, hat'⟩ | ⟨_, _, hat, hat'⟩
      · rw [hat, hat']
      · rw [hat, hat']
      · rw [hat, hat']

theorem place_congr {tree tree' : FileTree} (h : tree.shape = tree'.shape) (here : List String)
    (p : Path) : tree.place here p = tree'.place here p := by
  rw [place, place, follow_congr h, follow_congr h]

theorem put_congr {tree tree' : FileTree} (h : tree.shape = tree'.shape) (name : List String)
    {entry entry' : Entry} (hentry : entry.isFile = entry'.isFile) :
    (tree.put name entry).shape = (tree'.put name entry').shape := by
  induction tree generalizing tree' with
  | nil =>
      cases tree' with
      | nil =>
          rw [put, put, shape, shape]
          simp only [List.map_cons, List.map_nil, hentry]
      | cons e' tree' => cases h
  | cons e tree ih =>
      cases tree' with
      | nil => cases h
      | cons e' tree' =>
          rw [shape, shape, List.map_cons, List.map_cons, List.cons.injEq, Prod.mk.injEq] at h
          rw [put, put, h.1.1]
          split
          · rw [shape, shape, List.map_cons, List.map_cons, hentry, h.2]
          · have hrest := ih h.2
            rw [shape, shape] at hrest ⊢
            rw [List.map_cons, List.map_cons, hrest, h.1.2]

/-- Where a file can be written, and what the tree looks like then, is a matter of
the shape. -/
theorem update_shape {tree tree' : FileTree} (h : tree.shape = tree'.shape) (here : List String)
    (p : Path) (change change' : List UInt8 → List UInt8) :
    (tree.update here p change).map shape = (tree'.update here p change').map shape := by
  rw [update, update, place_congr h]
  cases tree'.place here p with
  | error e => rfl
  | ok place =>
      cases place with
      | nullDevice => exact congrArg Except.ok h
      | outside => rfl
      | inside name =>
          dsimp only [bind, Except.bind]
          rcases at?_cases h name with ⟨hat, hat'⟩ | ⟨hat, hat'⟩ | ⟨_, _, hat, hat'⟩
          · rw [hat, hat']
            exact congrArg Except.ok (put_congr h name rfl)
          · rw [hat, hat']
          · rw [hat, hat']
            exact congrArg Except.ok (put_congr h name rfl)

theorem lookup_of_at?_file {tree : FileTree} {name : List String} {bytes : List UInt8}
    (h : tree.at? name = some (.file bytes)) : tree.lookup name = some (.file bytes) := by
  rw [at?] at h
  split at h
  · next hlookup => rw [hlookup, h]
  · split at h <;> cases h

/-- A file in place of a file leaves the shape as it is. -/
theorem shape_put {tree : FileTree} {name : List String} {bytes : List UInt8}
    (h : tree.lookup name = some (.file bytes)) (bytes' : List UInt8) :
    (tree.put name (.file bytes')).shape = tree.shape := by
  induction tree with
  | nil => cases h
  | cons e tree ih =>
      obtain ⟨n, entry⟩ := e
      rw [List.lookup_cons] at h
      rw [put]
      split
      · next hn =>
          rw [beq_iff_eq] at hn
          rw [hn, BEq.rfl] at h
          cases h
          rw [hn]
          rfl
      · next hn =>
          rw [beq_iff_eq] at hn
          rw [beq_false_of_ne (Ne.symm hn)] at h
          exact congrArg ((n, entry.isFile) :: ·) (ih h)

theorem lookup_put (tree : FileTree) {name other : List String} (hne : other ≠ name)
    (entry : Entry) : (tree.put name entry).lookup other = tree.lookup other := by
  induction tree with
  | nil => rw [put, List.lookup_cons, beq_false_of_ne hne]
  | cons e tree ih =>
      obtain ⟨n, entry'⟩ := e
      rw [put]
      split
      · next hn =>
          rw [beq_iff_eq] at hn
          rw [List.lookup_cons, List.lookup_cons, hn, beq_false_of_ne hne]
      · rw [List.lookup_cons, List.lookup_cons, ih]

theorem lookup_put_self (tree : FileTree) (name : List String) (entry : Entry) :
    (tree.put name entry).lookup name = some entry := by
  induction tree with
  | nil => rw [put, List.lookup_cons_self]
  | cons e tree ih =>
      obtain ⟨n, entry'⟩ := e
      rw [put]
      split
      · rw [List.lookup_cons_self]
      · next hn =>
          rw [beq_iff_eq] at hn
          rw [List.lookup_cons, beq_false_of_ne (Ne.symm hn)]
          exact ih

/-- A new entry takes no name away. -/
theorem any_put {tree : FileTree} {q : List String → Bool} (h : tree.any (q ·.1) = true)
    (name : List String) (entry : Entry) : (tree.put name entry).any (q ·.1) = true := by
  induction tree with
  | nil => cases h
  | cons e tree ih =>
      obtain ⟨n, entry'⟩ := e
      rw [List.any_cons, Bool.or_eq_true] at h
      rw [put]
      split
      · next hn =>
          rw [beq_iff_eq] at hn
          rw [List.any_cons, Bool.or_eq_true, ← hn]
          exact h
      · rw [List.any_cons, Bool.or_eq_true]
        exact h.imp_right ih

/-- A new file leaves directories where they are. -/
theorem at?_put_of_directory {tree : FileTree} {name other : List String}
    (hname : tree.at? name = none) (hother : tree.at? other = some .directory) (entry : Entry) :
    (tree.put name entry).at? other = some .directory := by
  have hne : other ≠ name := by
    rintro rfl
    rw [hname] at hother
    cases hother
  rw [at?] at hother ⊢
  rw [lookup_put tree hne]
  cases hlookup : tree.lookup other with
  | some entry' =>
      rw [hlookup] at hother
      exact hother
  | none =>
      rw [hlookup] at hother
      dsimp only at hother ⊢
      split at hother
      · next hempty =>
          rw [Bool.or_eq_true] at hempty
          rw [if_pos]
          rw [Bool.or_eq_true]
          exact hempty.imp_right fun h => any_put h name entry
      · cases hother

/-- The name of a new file leads to it from then on. -/
theorem follow_put {tree : FileTree} {name : List String} (hname : tree.at? name = none)
    (entry : Entry) {dir components : List String}
    (h : tree.follow dir components = .ok (.inside name)) :
    (tree.put name entry).follow dir components = .ok (.inside name) := by
  induction components generalizing dir with
  | nil => exact h
  | cons c components ih =>
      rw [follow] at h ⊢
      split at h
      · cases h
      · next hlimit =>
          rw [if_neg hlimit]
          split at h
          · next hup =>
              rw [if_pos hup]
              split at h
              · split at h <;> cases h
              · next hdir =>
                  rw [if_neg hdir]
                  exact ih h
          · next hdown =>
              rw [if_neg hdown]
              dsimp only at h ⊢
              split at h
              · next hlast =>
                  rw [if_pos hlast]
                  exact h
              · next hlast =>
                  rw [if_neg hlast]
                  split at h
                  · next hat =>
                      rw [at?_put_of_directory hname hat]
                      exact ih h
                  · cases h
                  · cases h

theorem place_put {tree : FileTree} {here name : List String} {p : Path}
    (hname : tree.at? name = none) (entry : Entry)
    (h : tree.place here p = .ok (.inside name)) :
    (tree.put name entry).place here p = .ok (.inside name) := by
  rw [place] at h ⊢
  split at h
  · cases h
  · next hzero =>
      rw [if_neg hzero]
      split at h
      · cases h
      · next hlong =>
          rw [if_neg hlong]
          split at h
          · next hroot =>
              rw [if_pos hroot]
              exact follow_put hname entry h
          · next hroot =>
              rw [if_neg hroot]
              split at h
              · next hhere =>
                  rw [if_pos hhere]
                  exact follow_put hname entry h
              · unfold placeOutside at h
                split at h <;> cases h

/-- A file that could be written can be written again, and the shape of the tree
stays as it is then. -/
theorem update_shape_of_update {tree tree' : FileTree} {here : List String} {p : Path}
    {change : List UInt8 → List UInt8} (h : tree.update here p change = .ok tree')
    (change' : List UInt8 → List UInt8) :
    (tree'.update here p change').map shape = .ok tree'.shape := by
  rw [update] at h
  cases hplace : tree.place here p with
  | error e =>
      rw [hplace] at h
      cases h
  | ok place =>
      rw [hplace] at h
      cases place with
      | outside => cases h
      | nullDevice =>
          cases h
          rw [update, hplace]
          rfl
      | inside name =>
          dsimp only [bind, Except.bind] at h
          cases hat : tree.at? name with
          | some entry =>
              rw [hat] at h
              cases entry with
              | directory => cases h
              | file bytes =>
                  cases h
                  have hlookup := lookup_of_at?_file hat
                  rw [update_shape (shape_put hlookup _) here p change' change', update, hplace]
                  dsimp only [bind, Except.bind]
                  rw [hat]
                  exact congrArg Except.ok ((shape_put hlookup _).trans (shape_put hlookup _).symm)
          | none =>
              rw [hat] at h
              cases h
              have hlookup := lookup_put_self tree name (.file (change []))
              rw [update, place_put hat _ hplace]
              dsimp only [bind, Except.bind]
              rw [at?, hlookup]
              exact congrArg Except.ok (shape_put hlookup _)

end FileTree

end TypstPress
