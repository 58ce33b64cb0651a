import TypstPress.Proofs.Transform.Recasting
import TypstPress.Proofs.Transform.Settled

/-!
# Merging a second time

Merging is not idempotent. A merged document can always be merged again, but a
cell that took in the mark on its right takes it in once more and grows
(`cell_is_widened_again`), while marks that were merged upwards are left alone.
`apply_apply_eq_iff` says when nothing changes: exactly if no cell that is still
set stands directly left of a mark.

A tree is merged from its tables to the tables inside their cells, and the
first run leaves every one of them settled. For that the two levels have to be
told apart: merging a table sees of each cell its kind and a text at its
beginning, which is its `face`, and merging what is inside the cells keeps their
faces (`mergeTable_mergeTrees`).
-/

namespace TypstPress

open Node

namespace TableSpans

/-! ## What merging sees of a table -/

/-- The first child of a content, where it is a text. -/
def firstText : List Node → List Node
  | .leaf (.text content) m :: _ => [.leaf (.text content) m]
  | _ => []

/-- A node with no more of its content than a text at its beginning. -/
def face : Node → Node
  | .leaf l m => .leaf l m
  | .branch k cs m => .branch k (firstText cs) m

/-- A row with the faces of its cells. -/
def rowFace : Node → Node
  | .leaf l m => .leaf l m
  | .branch k cells m => .branch k (cells.map face) m

theorem startsWithMark_firstText (mark : Char) (cs : List Node) :
    startsWithMark mark (firstText cs) = startsWithMark mark cs := by
  match cs with
  | [] => rfl
  | .leaf l m :: rest => cases l <;> rfl
  | .branch k cs m :: rest => rfl

theorem isMark_face (mark : Char) (n : Node) : isMark mark (face n) = isMark mark n := by
  cases n with
  | leaf l m => rfl
  | branch k cs m =>
      rw [face, isMark, isMark]
      cases k <;> first | rfl | exact congrArg Except.ok (startsWithMark_firstText mark cs)

theorem recastsRows_rowFace : RecastsRows face rowFace where
  cell alignment cs m :=
    ⟨alignment, firstText cs, m, fun mark => startsWithMark_firstText mark cs, fun _ _ _ => rfl⟩
  noCell n h := by
    cases n with
    | leaf l m => rfl
    | branch k cs m => exact h
  isMark := isMark_face
  kindName n := by cases n <;> rfl
  rowCells? row := by
    cases row with
    | leaf l m => rfl
    | branch k cells m => cases k <;> rfl
  rowKindName row := by cases row <;> rfl
  putChildren cells row := by cases row <;> rfl

theorem mergeTable_failure_congr {rows rows' : List Node}
    (h : rows'.map rowFace = rows.map rowFace) :
    (mergeTable rows').1.failure = (mergeTable rows).1.failure := by
  have hface : ∀ rows : List Node,
      (mergeTable rows).1.failure = (mergeTable (rows.map rowFace)).1.failure := by
    intro rows
    rw [mergeTable_recast recastsRows_rowFace]
    rfl
  rw [hface rows', h, ← hface]

/-! ## Trees -/

theorem mergeTrees_failure_iff {ns : List Node} :
    (mergeTrees ns).failure = none ↔ ∀ n ∈ ns, (mergeTree n).failure = none := by
  induction ns with
  | nil =>
      rw [mergeTrees]
      exact iff_of_true rfl fun _ hn => absurd hn List.not_mem_nil
  | cons n ns ih =>
      rw [mergeTrees, List.forall_mem_cons, ← ih]
      cases (mergeTree n).failure <;> simp

theorem mergeTrees_eq_map {ns : List Node} (h : ∀ n ∈ ns, (mergeTree n).failure = none) :
    (mergeTrees ns).trees = ns.map fun n => (mergeTree n).tree := by
  induction ns with
  | nil =>
      rw [mergeTrees]
      rfl
  | cons n ns ih =>
      rw [List.forall_mem_cons] at h
      rw [mergeTrees]
      simp only [h.1, ih h.2, List.map_cons]

theorem mergeTree_of_ne_table {k : Branch} (hk : ∀ headed alignments, k ≠ .table headed alignments)
    (cs : List Node) (m : Metadata) :
    (mergeTree (.branch k cs m)).failure = (mergeTrees cs).failure ∧
      (mergeTree (.branch k cs m)).tree = .branch k (mergeTrees cs).trees m := by
  unfold mergeTree
  split
  · exact absurd rfl (hk _ _)
  · exact ⟨rfl, rfl⟩

theorem mergeTree_table {rows : List Node} (hhere : (mergeTable rows).1.failure = none)
    (headed : Bool) (alignments : List (Option String)) (m : Metadata) :
    (mergeTree (.branch (.table headed alignments) rows m)).failure = (mergeTrees rows).failure ∧
      (mergeTree (.branch (.table headed alignments) rows m)).tree =
        .branch (.table headed alignments) (mergeTable (mergeTrees rows).trees).1.value m := by
  rw [mergeTree]
  simp only [hhere, and_self]

theorem mergeTable_of_mergeTree {rows : List Node} {headed : Bool}
    {alignments : List (Option String)} {m : Metadata}
    (h : (mergeTree (.branch (.table headed alignments) rows m)).failure = none) :
    (mergeTable rows).1.failure = none := by
  rw [mergeTree] at h
  cases hhere : (mergeTable rows).1.failure with
  | none => rfl
  | some f => simp [hhere] at h

theorem kind_mergeTree (n : Node) : (mergeTree n).tree.kind = n.kind := by
  cases n with
  | leaf l m =>
      rw [mergeTree]
  | branch k cs m =>
      unfold mergeTree
      split
      · dsimp only
        split <;> rfl
      · rfl

theorem firstText_of_grown {cs cs' : List Node} (h : List.Forall₂ Grown cs cs') :
    firstText cs' = firstText cs := by
  cases h with
  | nil => rfl
  | cons hfirst hrest =>
      cases hfirst with
      | leaf l m => cases l <;> rfl
      | branch hkind hchildren => rfl

theorem face_mergeTree (n : Node) : face (mergeTree n).tree = face n := by
  have hgrown := mergeTree_grown n
  have hkind := kind_mergeTree n
  generalize (mergeTree n).tree = n' at hgrown hkind
  cases hgrown with
  | leaf l m => rfl
  | branch _ hchildren =>
      cases hkind
      rw [face, face, firstText_of_grown hchildren]

theorem rowFace_mergeTree {row : Node} {cells : List Node} (h : rowCells? row = some cells)
    (hdone : (mergeTree row).failure = none) : rowFace (mergeTree row).tree = rowFace row := by
  obtain ⟨isHeader, m, rfl⟩ := rowCells?_eq_some h
  obtain ⟨hfailure, htree⟩ := mergeTree_of_ne_table (k := .tableRow isHeader) nofun cells m
  rw [hfailure, mergeTrees_failure_iff] at hdone
  rw [htree, mergeTrees_eq_map hdone, rowFace, rowFace, List.map_map]
  exact congrArg (Node.branch _ · m) (List.map_congr_left fun cell _ => face_mergeTree cell)

theorem exists_cells_of_mergeColumns {rows : List Node}
    (h : (mergeColumns rows).failure = none) :
    ∀ row ∈ rows, ∃ cells, rowCells? row = some cells := by
  induction rows with
  | nil => exact fun _ hrow => absurd hrow List.not_mem_nil
  | cons row rows ih =>
      obtain ⟨hrows, cells, hcells, -, -⟩ := exists_merge_of_mergeColumns h
      exact List.forall_mem_cons.2 ⟨⟨cells, hcells⟩, ih hrows⟩

/-- A table can be merged before the tables inside its cells or after them. -/
theorem mergeTable_mergeTrees {rows : List Node} (h : (mergeTable rows).1.failure = none)
    (hbelow : ∀ row ∈ rows, (mergeTree row).failure = none) :
    (mergeTable (mergeTrees rows).trees).1.failure = none := by
  have hrows := exists_cells_of_mergeColumns (mergeColumns_of_mergeTable h)
  rw [← h, mergeTrees_eq_map hbelow]
  refine mergeTable_failure_congr ?_
  rw [List.map_map]
  refine List.map_congr_left fun row hrow => ?_
  obtain ⟨cells, hcells⟩ := hrows row hrow
  exact rowFace_mergeTree hcells (hbelow row hrow)

/-! ## Merging again -/

/-- Whether `P` holds of the rows of every table of a tree. -/
def EveryTable (P : List Node → Prop) (n : Node) : Prop :=
  ∀ headed alignments rows m, .branch (.table headed alignments) rows m ∈ n.preorder → P rows

theorem everyTable_leaf {P : List Node → Prop} (l : Leaf) (m : Metadata) :
    EveryTable P (.leaf l m) := by
  intro headed alignments rows m' hmem
  simp [preorder] at hmem

theorem everyTable_branch_iff {P : List Node → Prop} {k : Branch} {cs : List Node}
    {m : Metadata} : EveryTable P (.branch k cs m) ↔
      (∀ headed alignments, k = .table headed alignments → P cs) ∧ ∀ c ∈ cs, EveryTable P c := by
  constructor
  · intro h
    refine ⟨?_, fun c hc headed alignments rows m' hmem => ?_⟩
    · rintro headed alignments rfl
      exact h headed alignments cs m (by rw [preorder]; exact List.mem_cons_self)
    · refine h headed alignments rows m' ?_
      rw [preorder]
      exact List.mem_cons_of_mem _ (mem_preorderAll.2 ⟨c, hc, hmem⟩)
  · rintro ⟨hhere, hbelow⟩ headed alignments rows m' hmem
    rw [preorder, List.mem_cons] at hmem
    rcases hmem with heq | hmem
    · cases heq
      exact hhere headed alignments rfl
    · obtain ⟨c, hc, hmem⟩ := mem_preorderAll.1 hmem
      exact hbelow c hc headed alignments rows m' hmem

theorem EveryTable.grown {n n' : Node} (h : EveryTable HeldTable n) (hgrown : Grown n n') :
    EveryTable HeldTable n' := by
  induction n using Node.induction generalizing n' with
  | leaf l m =>
      cases hgrown
      exact h
  | branch k cs m ih =>
      rw [everyTable_branch_iff] at h
      cases hgrown with
      | branch hkind hchildren =>
          refine everyTable_branch_iff.2 ⟨?_, fun c' hc' => ?_⟩
          · rintro headed alignments rfl
            cases hkind
            exact (h.1 headed alignments rfl).grown hchildren
          · obtain ⟨c, hc, hgrown⟩ := exists_mem_of_grown hchildren hc'
            exact ih c hc (h.2 c hc) hgrown

/-- Merging settles every table of a tree. -/
theorem held_of_mergeTree {n : Node} (h : (mergeTree n).failure = none) :
    EveryTable HeldTable (mergeTree n).tree := by
  induction n using Node.induction with
  | leaf l m =>
      rw [mergeTree]
      exact everyTable_leaf l m
  | branch k cs m ih =>
      by_cases hk : ∃ headed alignments, k = .table headed alignments
      · obtain ⟨headed, alignments, rfl⟩ := hk
        have hhere := mergeTable_of_mergeTree h
        obtain ⟨hfailure, htree⟩ := mergeTree_table hhere headed alignments m
        have hbelow := mergeTrees_failure_iff.1 (hfailure.symm.trans h)
        have hgrown := mergeTable_grown (mergeTrees cs).trees
        rw [htree, everyTable_branch_iff]
        refine ⟨fun _ _ _ => held_of_mergeTable (mergeTable_mergeTrees hhere hbelow),
          fun row' hrow' => ?_⟩
        obtain ⟨row, hrow, hgrown⟩ := exists_mem_of_grown hgrown hrow'
        rw [mergeTrees_eq_map hbelow] at hrow
        obtain ⟨c, hc, rfl⟩ := List.mem_map.1 hrow
        exact (ih c hc (hbelow c hc)).grown hgrown
      · have hne : ∀ headed alignments, k ≠ .table headed alignments :=
          fun headed alignments heq => hk ⟨headed, alignments, heq⟩
        obtain ⟨hfailure, htree⟩ := mergeTree_of_ne_table hne cs m
        have hbelow := mergeTrees_failure_iff.1 (hfailure.symm.trans h)
        rw [htree, mergeTrees_eq_map hbelow, everyTable_branch_iff]
        refine ⟨fun headed alignments heq => absurd heq (hne headed alignments), ?_⟩
        exact List.forall_mem_map.2 fun c hc => ih c hc (hbelow c hc)

/-- Merging a settled tree succeeds, and leaves it as it is if no cell regains
its neighbour. -/
theorem mergeTree_of_held {n : Node} (h : EveryTable HeldTable n) :
    (mergeTree n).failure = none ∧
      ((mergeTree n).tree = n ↔ EveryTable (fun rows => ∀ row ∈ rows, SteadyRow row) n) := by
  induction n using Node.induction with
  | leaf l m =>
      rw [mergeTree]
      exact ⟨rfl, iff_of_true rfl (everyTable_leaf l m)⟩
  | branch k cs m ih =>
      rw [everyTable_branch_iff] at h
      have hbelow : ∀ c ∈ cs, (mergeTree c).failure = none := fun c hc => (ih c hc (h.2 c hc)).1
      have hsame : (mergeTrees cs).trees = cs ↔
          ∀ c ∈ cs, EveryTable (fun rows => ∀ row ∈ rows, SteadyRow row) c := by
        rw [mergeTrees_eq_map hbelow]
        conv_lhs =>
          rhs
          rw [← List.map_id cs]
        rw [List.map_inj_left]
        exact forall₂_congr fun c hc => (ih c hc (h.2 c hc)).2
      rw [everyTable_branch_iff, ← hsame]
      by_cases hk : ∃ headed alignments, k = .table headed alignments
      · obtain ⟨headed, alignments, rfl⟩ := hk
        obtain ⟨hhere, hsteady⟩ := mergeTable_of_held (h.1 headed alignments rfl)
        obtain ⟨hfailure, htree⟩ := mergeTree_table hhere headed alignments m
        refine ⟨hfailure.trans (mergeTrees_failure_iff.2 hbelow), ?_⟩
        rw [htree]
        constructor
        · intro heq
          injection heq with _ hvalue
          -- merging below and then here goes up twice and ends where it began
          have hup := mergeTable_grown (mergeTrees cs).trees
          rw [hvalue] at hup
          have htrees := grown_all_antisymm (mergeTrees_grown cs) hup
          rw [← htrees] at hvalue
          exact ⟨fun _ _ _ => hsteady.1 hvalue, htrees.symm⟩
        · rintro ⟨hrows, htrees⟩
          rw [htrees, hsteady.2 (hrows headed alignments rfl)]
      · have hne : ∀ headed alignments, k ≠ .table headed alignments :=
          fun headed alignments heq => hk ⟨headed, alignments, heq⟩
        obtain ⟨hfailure, htree⟩ := mergeTree_of_ne_table hne cs m
        refine ⟨hfailure.trans (mergeTrees_failure_iff.2 hbelow), ?_⟩
        rw [htree, and_iff_right fun headed alignments heq => absurd heq (hne headed alignments)]
        constructor
        · intro heq
          injection heq
        · intro htrees
          rw [htrees]

/-- Once a document has been merged, merging it again succeeds, and it changes
nothing exactly if in no table a cell regains its right neighbour. -/
theorem apply_apply_eq_iff {document : Node} (h : (apply document).failure = none) :
    (apply (apply document).tree).failure = none ∧
      ((apply (apply document).tree).tree = (apply document).tree ↔
        ∀ headed alignments rows m,
          .branch (.table headed alignments) rows m ∈ (apply document).tree.preorder →
            ∀ row ∈ rows, row.children.IsChain fun left cell => ¬ Regains left cell) :=
  mergeTree_of_held (held_of_mergeTree h)

/-- A table with a cell and a mark below it, as merging leaves it. -/
def mergedColumn : Node :=
  .ofBranch .document [.ofBranch (.table true []) [
    .ofBranch (.tableRow true) [.ofBranch (.tableCell 1 2 false none) [.ofText "a"]],
    .ofBranch (.tableRow false) [.ofBranch (.tableCell 1 1 true none) [.ofText "^"]]]]

theorem mergedColumn_is_kept :
    (apply mergedColumn).tree = mergedColumn ∧
      (apply (apply mergedColumn).tree).tree = (apply mergedColumn).tree := by
  have hsame : (apply mergedColumn).tree = mergedColumn := rfl
  have hdone : (apply mergedColumn).failure = none := rfl
  have hsteady : EveryTable
      (fun rows => ∀ row ∈ rows, row.children.IsChain fun left cell => ¬ Regains left cell)
      mergedColumn := by
    simp [mergedColumn, ofBranch, ofText, ofLeaf, everyTable_branch_iff, everyTable_leaf, children]
  exact ⟨hsame, (apply_apply_eq_iff hdone).2.2 (hsame.symm ▸ hsteady)⟩

/-- A table with a single row of a cell and a mark, where the cell has a colspan
and the mark is suppressed or not. -/
def markedRow (colspan : Nat) (suppressed : Bool) : Node :=
  .ofBranch .document [.ofBranch (.table true []) [.ofBranch (.tableRow true) [
    .ofBranch (.tableCell colspan 1 false none) [.ofText "a"],
    .ofBranch (.tableCell 1 1 suppressed none) [.ofText "<"]]]]

/-- Merging again widens a cell once more by the mark that it took in. -/
theorem cell_is_widened_again :
    (apply (markedRow 1 false)).tree = markedRow 2 true ∧
      (apply (apply (markedRow 1 false)).tree).tree = markedRow 3 true :=
  ⟨rfl, rfl⟩

end TableSpans

end TypstPress
