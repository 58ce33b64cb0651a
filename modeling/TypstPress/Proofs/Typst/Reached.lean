import TypstPress.Proofs.Typst.Faithful

/-!
# Which nodes are set

Setting a document does not come to all of its nodes. Footnote definitions are
passed over where they stand, cells that were merged into a neighbour are left
out, and so is what a row has beyond the columns of its table. `reached` lists
the nodes that setting a tree comes to, in the order in which it does, and says
nothing else about them.

It is enough to know them. Besides pieces of source and records, all that the
fragments of a tree hold comes from its leaves, each leaf that is reached adds
its own, and no other does (`events_fragments`). Tables, list items and the
paragraphs in them only differ in the source around their children, which is
why one list of nodes serves them all.

The law is for trees that meet no defect: where there is one, the tree may have
been left in the middle.
-/

namespace TypstPress.Typst

open Node

mutual

/-- The nodes that setting a tree comes to, in order. -/
def reached : Node → List Node
  | .leaf l m => [.leaf l m]
  | .branch k cs m =>
    .branch k cs m ::
      match k with
      | .table _ alignments => reachedRows (columnCount alignments cs) cs
      | .tableRow _ | .footnoteDefinition _ => []
      | _ => reachedAll cs

/-- The nodes that setting several trees comes to. -/
def reachedAll : List Node → List Node
  | [] => []
  | n :: ns => reached n ++ reachedAll ns

/-- The nodes in the rows of a table with a number of columns. -/
def reachedRows (columns : Nat) : List Node → List Node
  | [] => []
  | .branch (.tableRow _) cells _ :: rows =>
    reachedCells columns cells ++ reachedRows columns rows
  | _ :: rows => reachedRows columns rows

/-- The nodes in the cells of a row: none beyond the columns, and none where a
cell is suppressed. -/
def reachedCells : Nat → List Node → List Node
  | 0, _ | _, [] => []
  | columns + 1, .branch (.tableCell colspan rowspan suppressed alignment) cs m :: cells =>
    (if suppressed then []
     else .branch (.tableCell colspan rowspan suppressed alignment) cs m :: reachedAll cs) ++
      reachedCells columns cells
  | columns + 1, _ :: cells => reachedCells columns cells

end

/-! ## Events -/

/-- Whether a fragment is more than a piece of source or a record. -/
def Fragment.isEvent : Fragment → Bool
  | .source _ | .record _ => false
  | .asset _ | .cite _ | .noteBodies | .defect _ => true

/-- The fragments that are more than pieces of source and records. -/
def events (fs : List Fragment) : List Fragment := fs.filter Fragment.isEvent

theorem events_append (fs gs : List Fragment) : events (fs ++ gs) = events fs ++ events gs :=
  List.filter_append fs gs

theorem events_cons_source (piece : String) (fs : List Fragment) :
    events (.source piece :: fs) = events fs :=
  rfl

theorem filterMap_events {g : Fragment → Option α}
    (hg : ∀ f, f.isEvent = false → g f = none) (fs : List Fragment) :
    (events fs).filterMap g = fs.filterMap g := by
  induction fs with
  | nil => rfl
  | cons f fs ih =>
      rw [events, List.filter_cons]
      split
      · rw [List.filterMap_cons, List.filterMap_cons, ← ih, events]
      · next hf =>
          rw [List.filterMap_cons_none (hg f (Bool.eq_false_iff.2 hf)), ← ih, events]

theorem citations_events (fs : List Fragment) : citations (events fs) = citations fs := by
  refine filterMap_events (fun f hf => ?_) fs
  cases f with
  | cite identifier => cases hf
  | _ => rfl

theorem events_opening (s : Setting) (k : Branch) : events (opening s k) = [] := by
  cases k with
  | list ordered start tight =>
      cases ordered with
      | false => rfl
      | true => cases start <;> rfl
  | containerDirective name attributes =>
      rw [opening]
      split
      · rw [figureOpening]
        split <;> rfl
      · rfl
  | linkReference identifier label form =>
      rw [opening]
      split <;> rfl
  | _ => rfl

theorem events_closing (s : Setting) (k : Branch) : events (closing s k) = [] := by
  cases k with
  | containerDirective name attributes =>
      rw [closing]
      split <;> rfl
  | linkReference identifier label form =>
      rw [closing]
      split <;> rfl
  | _ => rfl

theorem events_tableOpening (words : List String) : events (tableOpening words) = [] := by
  have hcolumns :
      events (words.flatMap fun alignment => [.source alignment, .source ", "]) = [] := by
    induction words with
    | nil => rfl
    | cons word words ih =>
        rw [List.flatMap_cons, events_append, ih]
        rfl
  rw [tableOpening, List.cons_append, events_cons_source, events_append, hcolumns]
  rfl

theorem events_cellOpening (colspan rowspan : Nat) : events (cellOpening colspan rowspan) = [] := by
  have hspan : ∀ (condition : Prop) [Decidable condition] (piece : String),
      events (if condition then [.source piece] else []) = [] := by
    intro condition _ piece
    split <;> rfl
  rw [cellOpening, events_append, events_append, events_append, hspan, hspan]
  rfl

theorem events_padding (columns : Nat) :
    events (List.replicate columns (.source "table.cell()[], ")) = [] := by
  induction columns with
  | zero => rfl
  | succ columns ih => rw [List.replicate_succ, events_cons_source, ih]

/-! ## Children of a frame -/

theorem events_itemFragments (s : Setting) (ns : List Node) :
    events (itemFragments s ns) = events (fragmentsAll s ns) := by
  induction ns with
  | nil => rw [itemFragments, fragmentsAll]
  | cons n ns ih =>
      rw [itemFragments, fragmentsAll, events_append, events_append, events_cons_source,
        events_cons_source, ih]

/-- A paragraph has the events of its children, with its frame and without. -/
theorem events_unwrappedFragments (s : Setting) (ns : List Node) :
    events (unwrappedFragments s ns) = events (fragmentsAll s ns) := by
  induction ns with
  | nil => rw [unwrappedFragments, fragmentsAll]
  | cons n ns ih =>
      rw [fragmentsAll, events_append, ← ih]
      by_cases hn : ∃ cs m, n = .branch .paragraph cs m
      · obtain ⟨cs, m, rfl⟩ := hn
        rw [unwrappedFragments, events_append, fragments, List.cons_append, events_cons_source,
          events_append]
        exact congrArg (· ++ _) (List.append_nil _).symm
      · have hne : ∀ cs m, n ≠ .branch .paragraph cs m := fun cs m h => hn ⟨cs, m, h⟩
        rw [unwrappedFragments_cons s hne, events_append]

theorem events_framed (s : Setting) {k : Branch} (h : k.layout.isFramed = true)
    (cs : List Node) (m : Metadata) :
    events (fragments s (.branch k cs m)) = events (fragmentsAll s cs) := by
  have hinner : events (inner s k.layout cs) = events (fragmentsAll s cs) := by
    unfold inner
    split
    · exact events_itemFragments s cs
    · exact events_unwrappedFragments s cs
    · rfl
  rw [fragments_framed s h, events_append, events_append, events_opening, events_closing, hinner,
    List.nil_append, List.append_nil]

theorem firstDefect_events (fs : List Fragment) : firstDefect (events fs) = firstDefect fs := by
  induction fs with
  | nil => rfl
  | cons f fs ih =>
      cases f with
      | source | record => exact ih
      | defect d => rfl
      | asset | cite | noteBodies => exact ih

theorem reached_framed {k : Branch} (h : k.layout.isFramed = true) (cs : List Node)
    (m : Metadata) : reached (.branch k cs m) = .branch k cs m :: reachedAll cs := by
  cases k with
  | document | table | tableRow | footnoteDefinition => cases h
  | _ => rw [reached] <;> nofun

/-! ## Trees -/

/-- What a node brings about by itself. -/
def nodeEvents (s : Setting) : Node → List Fragment
  | .leaf l _ => events (leafFragments s l)
  | .branch .. => []

theorem reachedRows_cons {row : Node}
    (h : ∀ isHeader cells m, row ≠ .branch (.tableRow isHeader) cells m) (columns : Nat)
    (rows : List Node) : reachedRows columns (row :: rows) = reachedRows columns rows := by
  rw [reachedRows]
  exact h

variable {s : Setting}

theorem events_strayRow {row : Node}
    (h : ∀ isHeader cells m, row ≠ .branch (.tableRow isHeader) cells m) {columns : Nat}
    {rows : List Node} (hd : firstDefect (rowFragments s columns (row :: rows)) = none) :
    firstDefect (rowFragments s columns rows) = none ∧
      events (rowFragments s columns (row :: rows)) = events (rowFragments s columns rows) := by
  rw [rowFragments_cons s columns h] at hd ⊢
  split at hd
  · next hzero =>
      rw [if_pos hzero]
      exact ⟨hd, rfl⟩
  · cases hd

mutual

/-- What the fragments of a tree hold besides source and records is what the
nodes that are reached bring about, in their order. -/
theorem events_fragments {n : Node} (h : n.all (!·.isDocument) = true)
    (hd : firstDefect (fragments s n) = none) :
    events (fragments s n) = (reached n).flatMap (nodeEvents s) := by
  match n with
  | .leaf l m => rw [fragments, reached, List.flatMap_singleton, nodeEvents]
  | .branch k cs m =>
      rw [all_branch] at h
      by_cases hframed : k.layout.isFramed = true
      · have hevents := events_framed s hframed cs m
        rw [← firstDefect_events, hevents, firstDefect_events] at hd
        rw [hevents, reached_framed hframed, List.flatMap_cons, nodeEvents, List.nil_append]
        exact events_fragmentsAll h.2 hd
      · cases k with
        | document => cases h.1
        | table headed alignments =>
            have hrows := fun columns => events_rowFragments columns h.2
            cases cs with
            | nil => rw [fragments, reached, reachedRows]; rfl
            | cons row rows =>
                rw [fragments] at hd ⊢
                rw [reached, List.flatMap_cons, nodeEvents, List.nil_append]
                cases hcolumns : tableColumns alignments (row :: rows) with
                | error d => rw [hcolumns] at hd; cases hd
                | ok columns =>
                    rw [hcolumns] at hd
                    simp only [] at hd ⊢
                    cases hwords : columnAlignments columns with
                    | error alignment => rw [hwords] at hd; cases hd
                    | ok words =>
                        rw [hwords] at hd
                        simp only [firstDefect_append_eq_none] at hd
                        simp only [events_append, events_tableOpening, List.nil_append]
                        rw [← length_of_tableColumns hcolumns, hrows columns.length hd.1.2]
                        exact List.append_nil _
        | tableRow isHeader =>
            rw [fragments] at hd
            cases hd
        | footnoteDefinition identifier => rw [fragments, reached]; rfl
        | _ => exact absurd rfl hframed
termination_by sizeOf n

theorem events_fragmentsAll {ns : List Node} (h : allOf (!·.isDocument) ns = true)
    (hd : firstDefect (fragmentsAll s ns) = none) :
    events (fragmentsAll s ns) = (reachedAll ns).flatMap (nodeEvents s) := by
  match ns with
  | [] => rw [fragmentsAll, reachedAll]; rfl
  | n :: ns =>
      rw [allOf_cons] at h
      rw [fragmentsAll, firstDefect_append_eq_none] at hd
      rw [fragmentsAll, reachedAll, events_append, List.flatMap_append, events_fragments h.1 hd.1,
        events_fragmentsAll h.2 hd.2]
termination_by sizeOf ns

theorem events_rowFragments (columns : Nat) {rows : List Node}
    (h : allOf (!·.isDocument) rows = true)
    (hd : firstDefect (rowFragments s columns rows) = none) :
    events (rowFragments s columns rows) = (reachedRows columns rows).flatMap (nodeEvents s) := by
  match rows with
  | [] => rw [rowFragments, reachedRows]; rfl
  | .leaf l m :: rows =>
      rw [allOf_cons] at h
      have hne : ∀ isHeader cells m', Node.leaf l m ≠ .branch (.tableRow isHeader) cells m' :=
        fun _ _ _ => Node.noConfusion
      obtain ⟨hrest, hevents⟩ := events_strayRow hne hd
      rw [hevents, reachedRows_cons hne, events_rowFragments columns h.2 hrest]
  | .branch k cells m :: rows =>
      rw [allOf_cons, all_branch] at h
      by_cases hk : k.layout = .row
      · obtain ⟨isHeader, rfl⟩ := layout_eq_row hk
        rw [rowFragments, firstDefect_append_eq_none] at hd
        rw [rowFragments, reachedRows, events_append, events_cons_source, List.flatMap_append,
          events_cellFragments columns h.1.2 hd.1, events_rowFragments columns h.2 hd.2]
      · obtain ⟨hrest, hevents⟩ := events_strayRow (branch_ne_row hk) hd
        rw [hevents, reachedRows_cons (branch_ne_row hk), events_rowFragments columns h.2 hrest]
termination_by sizeOf rows

theorem events_cellFragments (columns : Nat) {cells : List Node}
    (h : allOf (!·.isDocument) cells = true)
    (hd : firstDefect (cellFragments s columns cells) = none) :
    events (cellFragments s columns cells) =
      (reachedCells columns cells).flatMap (nodeEvents s) := by
  match columns, cells with
  | 0, cells => rw [cellFragments, reachedCells]; rfl
  | columns + 1, [] =>
      rw [cellFragments, events_padding, reachedCells]
      · rfl
      · nofun
  | columns + 1, .leaf l m :: cells =>
      rw [cellFragments_cons s columns fun _ _ _ _ _ _ => Node.noConfusion] at hd
      cases hd
  | columns + 1, .branch k cs m :: cells =>
      rw [allOf_cons, all_branch] at h
      cases hl : k.layout with
      | cell colspan rowspan suppressed =>
          obtain ⟨alignment, rfl⟩ := layout_eq_cell hl
          rw [cellFragments, firstDefect_append_eq_none] at hd
          rw [cellFragments, reachedCells, events_append, List.flatMap_append,
            events_cellFragments columns h.2 hd.2]
          refine congrArg (· ++ _) ?_
          cases suppressed with
          | true => rfl
          | false =>
              simp only [Bool.false_eq_true, if_false, firstDefect_append_eq_none] at hd ⊢
              simp only [events_append, events_cellOpening, List.nil_append, List.flatMap_cons,
                nodeEvents]
              rw [events_fragmentsAll h.1.2 hd.1.1.2]
              exact List.append_nil _
      | _ =>
          rw [cellFragments_cons s columns (branch_ne_cell (by
            intro _ _ _ hcell
            rw [hl] at hcell
            cases hcell))] at hd
          cases hd
termination_by sizeOf cells

end

end TypstPress.Typst
