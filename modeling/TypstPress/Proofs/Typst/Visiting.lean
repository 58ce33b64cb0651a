import TypstPress.Proofs.Typst.Reached
import TypstPress.Proofs.Typst.Renderer

/-!
# Setting a tree by visiting its nodes

A renderer sets a tree in two stages. The fragments of all nodes are laid out
first, with the definitions as they are when setting begins, and then they are
put into the context one after the other. Told as a visit there is one stage:
the renderer comes to a node, looks up what it needs in the context as it is by
then, puts something, goes on to the children, and puts something again, until
it is through or something stops it. This file gives that account (`visit`) and
shows that setting does just the same (`sets_visit`), whatever the tree: documents
within documents, stray rows and unknown alignments included.

What is to be said of visits is said by an induction over every kind of node, so
that induction is done once. `VisitCorrespondence` collects what a relation
between a part of a visit, some fragments and some nodes has to satisfy, and
`visited` concludes it for the visit of a tree, its fragments and the nodes that
are reached in it. Here it is used for the fragments: `Sets` says of a part that
it puts them wherever the definitions of a setting are held. The two accounts
differ in when a definition is looked up, and they agree because no emission
changes the definitions (`definitions_emit`).
-/

namespace TypstPress.Typst

open Node

/-- How far a visit got: what was set, and the nodes it came to in order. -/
structure Progress extends Emission where
  arrivals : List Node := []

namespace Progress

/-- One part of a visit followed by another on the context it leaves, unless the
first stopped. -/
def andThen (first : Progress) (next : Context → Progress) : Progress :=
  match first.defect with
  | some _ => first
  | none =>
    let rest := next first.context
    { rest with log := first.log ++ rest.log, arrivals := first.arrivals ++ rest.arrivals }

/-- A visit that begins at a node. -/
def arrive (n : Node) (p : Progress) : Progress := { p with arrivals := n :: p.arrivals }

end Progress

section

variable (options : TypstOptions) (bodies : Context → Emission)

/-- What follows the children of a document: the footnote bodies, out of sight. -/
def documentEnd : List Fragment :=
  [.source "\n", .source "#hide(place(top+left, [\n", .noteBodies, .source "]))\n"]

/-- Puts fragments; no node is come to. -/
def put (c : Context) (fs : List Fragment) : Progress := { toEmission := emit bodies c fs }

/-- Visits what is inside of a branch with a frame. What a reference refers to
is looked up once, before its children are visited. -/
def visitBetween (c : Context) (k : Branch) (inside : Context → Progress) : Progress :=
  (put bodies c (opening (c.setting options) k)).andThen fun now =>
    (inside now).andThen fun now => put bodies now (closing (c.setting options) k)

mutual

/-- Visits a tree. -/
def visit (c : Context) : Node → Progress
  | .leaf l m => (put bodies c (leafFragments (c.setting options) l)).arrive (.leaf l m)
  | .branch .document cs m =>
    ((visitAll c cs).andThen fun now => put bodies now documentEnd).arrive
      (.branch .document cs m)
  | .branch (.table headed alignments) rows m =>
    (match rows with
    | [] => put bodies c []
    | row :: rest =>
      match tableColumns alignments (row :: rest) with
      | .error d => put bodies c [.defect d]
      | .ok columns =>
        match columnAlignments columns with
        | .error alignment => put bodies c [.defect (.unknownAlignment alignment)]
        | .ok words =>
          (put bodies c (tableOpening words)).andThen fun now =>
            (visitRows now columns.length (row :: rest)).andThen fun now =>
              put bodies now [.source "))\n"]).arrive (.branch (.table headed alignments) rows m)
  | .branch (.tableRow isHeader) cells m =>
    (put bodies c [.defect .strayRow]).arrive (.branch (.tableRow isHeader) cells m)
  | .branch (.footnoteDefinition identifier) content m =>
    (put bodies c []).arrive (.branch (.footnoteDefinition identifier) content m)
  | .branch k cs m =>
    (visitBetween options bodies c k fun now =>
      match k.layout with
      | .items => visitItems now cs
      | .item => visitUnwrapped now cs
      | _ => visitAll now cs).arrive (.branch k cs m)

/-- Visits several trees, one after the other. -/
def visitAll (c : Context) : List Node → Progress
  | [] => put bodies c []
  | n :: ns => (visit c n).andThen fun now => visitAll now ns

/-- Visits the items of a list. -/
def visitItems (c : Context) : List Node → Progress
  | [] => put bodies c []
  | n :: ns =>
    ((put bodies c [.source "["]).andThen fun now =>
      (visit now n).andThen fun now => put bodies now [.source "],\n"]).andThen fun now =>
        visitItems now ns

/-- Visits the children of a list item. Of a paragraph only the children are set. -/
def visitUnwrapped (c : Context) : List Node → Progress
  | [] => put bodies c []
  | .branch .paragraph cs m :: ns =>
    ((visitAll c cs).arrive (.branch .paragraph cs m)).andThen fun now => visitUnwrapped now ns
  | n :: ns => (visit c n).andThen fun now => visitUnwrapped now ns

/-- Visits the rows of a table with a number of columns. -/
def visitRows (c : Context) (columns : Nat) : List Node → Progress
  | [] => put bodies c []
  | .branch (.tableRow _) cells _ :: rows =>
    ((visitCells c columns cells).andThen fun now => put bodies now [.source "\n"]).andThen
      fun now => visitRows now columns rows
  | row :: rows =>
    if columns == 0 then
      (put bodies c [.source "\n"]).andThen fun now => visitRows now columns rows
    else put bodies c [.defect (.notTabular row.kindName "cells")]

/-- Visits the cells of a row in a number of columns. -/
def visitCells (c : Context) : Nat → List Node → Progress
  | 0, _ => put bodies c []
  | columns + 1, [] =>
    put bodies c (List.replicate (columns + 1) (.source "table.cell()[], "))
  | columns + 1, .branch (.tableCell colspan rowspan suppressed alignment) cs m :: cells =>
    (if suppressed then put bodies c []
     else
      (put bodies c (cellOpening colspan rowspan)).andThen fun now =>
        ((visitAll now cs).arrive
          (.branch (.tableCell colspan rowspan suppressed alignment) cs m)).andThen fun now =>
            put bodies now [.source "], "]).andThen fun now => visitCells now columns cells
  | _ + 1, cell :: _ => put bodies c [.defect (.notTabular cell.kindName "suppressed")]

end

end

/-! ## Equations of the visit -/

section

variable {options : TypstOptions} {bodies : Context → Emission}

theorem visit_framed {k : Branch} (h : k.layout.isFramed = true) (c : Context) (cs : List Node)
    (m : Metadata) :
    visit options bodies c (.branch k cs m) =
      (visitBetween options bodies c k fun now =>
        match k.layout with
        | .items => visitItems options bodies now cs
        | .item => visitUnwrapped options bodies now cs
        | _ => visitAll options bodies now cs).arrive (.branch k cs m) := by
  cases k with
  | document | table | tableRow | footnoteDefinition => cases h
  | _ => rw [visit] <;> simp

theorem visitUnwrapped_cons {n : Node} (h : ∀ cs m, n ≠ .branch .paragraph cs m) (c : Context)
    (ns : List Node) :
    visitUnwrapped options bodies c (n :: ns) =
      (visit options bodies c n).andThen fun now => visitUnwrapped options bodies now ns := by
  rw [visitUnwrapped]
  exact h

theorem visitRows_cons {row : Node}
    (h : ∀ isHeader cells m, row ≠ .branch (.tableRow isHeader) cells m) (c : Context)
    (columns : Nat) (rows : List Node) :
    visitRows options bodies c columns (row :: rows) =
      if columns == 0 then
        (put bodies c [.source "\n"]).andThen fun now => visitRows options bodies now columns rows
      else put bodies c [.defect (.notTabular row.kindName "cells")] := by
  rw [visitRows]
  exact h

theorem visitCells_cons {cell : Node}
    (h : ∀ colspan rowspan suppressed alignment cs m,
      cell ≠ .branch (.tableCell colspan rowspan suppressed alignment) cs m)
    (c : Context) (columns : Nat) (cells : List Node) :
    visitCells options bodies c (columns + 1) (cell :: cells) =
      put bodies c [.defect (.notTabular cell.kindName "suppressed")] := by
  rw [visitCells]
  exact h

end

/-! ## One induction for all that is said of visits -/

/-- What makes `R` hold between the visit of a tree whose kinds `p` accepts, its
fragments and the nodes that are reached in it: it survives sequencing, and the
parts that are no visits of trees keep it. -/
structure VisitCorrespondence (options : TypstOptions) (bodies : Context → Emission) (s : Setting)
    (p : Kind → Bool) (R : (Context → Progress) → List Fragment → List Node → Prop) : Prop where
  pieces : ∀ {fs}, events fs = [] → R (fun c => put bodies c fs) fs []
  leaf : ∀ l m, R (fun c => (put bodies c (leafFragments (c.setting options) l)).arrive (.leaf l m))
    (leafFragments s l) [.leaf l m]
  defect : ∀ d ns, R (fun c => put bodies c [.defect d]) [.defect d] ns
  arrive : ∀ {part fs ns} k cs m, R part fs ns →
    R (fun c => (part c).arrive (.branch k cs m)) fs (.branch k cs m :: ns)
  andThen : ∀ {part next fs gs ms ns}, R part fs ms → R next gs ns →
    R (fun c => (part c).andThen next) (fs ++ gs) (ms ++ ns)
  between : ∀ {part fs ns} k, R part fs ns →
    R (fun c => visitBetween options bodies c k part) (opening s k ++ fs ++ closing s k) ns
  document : ∀ {part fs ns}, p (.branch .document) = true → R part fs ns →
    R (fun c => (part c).andThen fun now => put bodies now documentEnd) (fs ++ documentEnd) ns

section

variable {options : TypstOptions} {bodies : Context → Emission} {s : Setting} {p : Kind → Bool}
  {R : (Context → Progress) → List Fragment → List Node → Prop}

theorem VisitCorrespondence.framed (V : VisitCorrespondence options bodies s p R)
    {part : Context → Progress} {before fs after : List Fragment} {ns : List Node}
    (hbefore : events before = []) (hafter : events after = []) (h : R part fs ns) :
    R (fun c => (put bodies c before).andThen fun now =>
      (part now).andThen fun now => put bodies now after) (before ++ fs ++ after) ns := by
  have hparts := V.andThen (V.pieces hbefore) (V.andThen h (V.pieces hafter))
  rw [List.nil_append, List.append_nil, ← List.append_assoc] at hparts
  exact hparts

theorem table_visited (V : VisitCorrespondence options bodies s p R) (headed : Bool)
    (alignments : List (Option String)) {rows : List Node} (m : Metadata)
    (hrows : ∀ columns, R (fun c => visitRows options bodies c columns rows)
      (rowFragments s columns rows) (reachedRows columns rows)) :
    R (fun c => visit options bodies c (.branch (.table headed alignments) rows m))
      (fragments s (.branch (.table headed alignments) rows m))
      (reached (.branch (.table headed alignments) rows m)) := by
  cases rows with
  | nil =>
      simp only [visit, fragments, reached, reachedRows]
      exact V.arrive _ _ m (V.pieces rfl)
  | cons row rows =>
      simp only [visit, fragments, reached]
      refine V.arrive _ _ m ?_
      cases hcolumns : tableColumns alignments (row :: rows) with
      | error d => exact V.defect d _
      | ok columns =>
          simp only []
          cases columnAlignments columns with
          | error alignment => exact V.defect (.unknownAlignment alignment) _
          | ok words =>
              rw [← length_of_tableColumns hcolumns]
              exact V.framed (events_tableOpening words) rfl (hrows columns.length)

theorem strayRow_visited (V : VisitCorrespondence options bodies s p R) {row : Node}
    (h : ∀ isHeader cells m, row ≠ .branch (.tableRow isHeader) cells m) (columns : Nat)
    {rows : List Node} (hrest : R (fun c => visitRows options bodies c columns rows)
      (rowFragments s columns rows) (reachedRows columns rows)) :
    R (fun c => visitRows options bodies c columns (row :: rows))
      (rowFragments s columns (row :: rows)) (reachedRows columns (row :: rows)) := by
  simp only [visitRows_cons h, rowFragments_cons s columns h, reachedRows_cons h]
  split
  · exact V.andThen (V.pieces rfl) hrest
  · exact V.defect _ _

mutual

/-- The visit of a tree corresponds to its fragments and the nodes reached. -/
theorem visited (V : VisitCorrespondence options bodies s p R) {n : Node} (h : n.all p = true) :
    R (fun c => visit options bodies c n) (fragments s n) (reached n) := by
  match n with
  | .leaf l m =>
      simp only [visit, fragments, reached]
      exact V.leaf l m
  | .branch k cs m =>
      rw [all_branch] at h
      by_cases hframed : k.layout.isFramed = true
      · simp only [visit_framed hframed, fragments_framed s hframed, reached_framed hframed]
        refine V.arrive k cs m (V.between k ?_)
        cases k.layout with
        | items => exact itemsVisited V h.2
        | item => exact unwrappedVisited V h.2
        | _ => exact allVisited V h.2
      · cases k with
        | document =>
            simp only [visit, fragments, reached]
            exact V.arrive _ _ m (V.document h.1 (allVisited V h.2))
        | table headed alignments =>
            exact table_visited V headed alignments m fun columns => rowsVisited V columns h.2
        | tableRow isHeader =>
            simp only [visit, fragments, reached]
            exact V.arrive _ _ m (V.defect .strayRow [])
        | footnoteDefinition identifier =>
            simp only [visit, fragments, reached]
            exact V.arrive _ _ m (V.pieces rfl)
        | _ => exact absurd rfl hframed
termination_by sizeOf n

theorem allVisited (V : VisitCorrespondence options bodies s p R) {ns : List Node}
    (h : allOf p ns = true) :
    R (fun c => visitAll options bodies c ns) (fragmentsAll s ns) (reachedAll ns) := by
  match ns with
  | [] =>
      simp only [visitAll, fragmentsAll, reachedAll]
      exact V.pieces rfl
  | n :: ns =>
      rw [allOf_cons] at h
      simp only [visitAll, fragmentsAll, reachedAll]
      exact V.andThen (visited V h.1) (allVisited V h.2)
termination_by sizeOf ns

theorem itemsVisited (V : VisitCorrespondence options bodies s p R) {ns : List Node}
    (h : allOf p ns = true) :
    R (fun c => visitItems options bodies c ns) (itemFragments s ns) (reachedAll ns) := by
  match ns with
  | [] =>
      simp only [visitItems, itemFragments, reachedAll]
      exact V.pieces rfl
  | n :: ns =>
      rw [allOf_cons] at h
      have hitem : R (fun c => (put bodies c [.source "["]).andThen fun now =>
          (visit options bodies now n).andThen fun now => put bodies now [.source "],\n"])
          ([.source "["] ++ fragments s n ++ [.source "],\n"]) (reached n) :=
        V.framed rfl rfl (visited V h.1)
      have hparts := V.andThen hitem (itemsVisited V h.2)
      simpa only [visitItems, itemFragments, reachedAll, List.cons_append, List.nil_append,
        List.append_assoc] using hparts
termination_by sizeOf ns

theorem unwrappedVisited (V : VisitCorrespondence options bodies s p R) {ns : List Node}
    (h : allOf p ns = true) :
    R (fun c => visitUnwrapped options bodies c ns) (unwrappedFragments s ns) (reachedAll ns) := by
  match ns with
  | [] =>
      simp only [visitUnwrapped, unwrappedFragments, reachedAll]
      exact V.pieces rfl
  | .leaf l m :: ns =>
      have hne : ∀ cs m', Node.leaf l m ≠ .branch .paragraph cs m' := fun _ _ => Node.noConfusion
      rw [allOf_cons] at h
      simp only [visitUnwrapped_cons hne, unwrappedFragments_cons s hne, reachedAll]
      exact V.andThen (visited V h.1) (unwrappedVisited V h.2)
  | .branch k cs m :: ns =>
      rw [allOf_cons] at h
      have hwhole := visited V h.1
      have hcontent := allVisited V (all_branch.1 h.1).2
      have hrest := unwrappedVisited V h.2
      by_cases hk : k.layout = .paragraph
      · obtain rfl := layout_eq_paragraph hk
        simp only [visitUnwrapped, unwrappedFragments, reachedAll, reached]
        exact V.andThen (V.arrive _ _ m hcontent) hrest
      · simp only [visitUnwrapped_cons (branch_ne_paragraph hk),
          unwrappedFragments_cons s (branch_ne_paragraph hk), reachedAll]
        exact V.andThen hwhole hrest
termination_by sizeOf ns

theorem rowsVisited (V : VisitCorrespondence options bodies s p R) (columns : Nat)
    {rows : List Node} (h : allOf p rows = true) :
    R (fun c => visitRows options bodies c columns rows) (rowFragments s columns rows)
      (reachedRows columns rows) := by
  match rows with
  | [] =>
      simp only [visitRows, rowFragments, reachedRows]
      exact V.pieces rfl
  | .leaf l m :: rows =>
      rw [allOf_cons] at h
      exact strayRow_visited V (fun _ _ _ => Node.noConfusion) columns (rowsVisited V columns h.2)
  | .branch k cells m :: rows =>
      rw [allOf_cons, all_branch] at h
      have hcells := cellsVisited V columns h.1.2
      have hrest := rowsVisited V columns h.2
      by_cases hk : k.layout = .row
      · obtain ⟨isHeader, rfl⟩ := layout_eq_row hk
        have hend : R (fun c => put bodies c [.source "\n"]) [.source "\n"] [] := V.pieces rfl
        have hparts := V.andThen (V.andThen hcells hend) hrest
        simpa only [visitRows, rowFragments, reachedRows, List.append_assoc,
          List.singleton_append, List.nil_append] using hparts
      · exact strayRow_visited V (branch_ne_row hk) columns hrest
termination_by sizeOf rows

theorem cellsVisited (V : VisitCorrespondence options bodies s p R) (columns : Nat)
    {cells : List Node} (h : allOf p cells = true) :
    R (fun c => visitCells options bodies c columns cells) (cellFragments s columns cells)
      (reachedCells columns cells) := by
  match columns, cells with
  | 0, cells =>
      simp only [visitCells, cellFragments, reachedCells]
      exact V.pieces rfl
  | columns + 1, [] =>
      simp only [visitCells, cellFragments, reachedCells]
      exact V.pieces (events_padding (columns + 1))
  | columns + 1, .leaf l m :: cells =>
      have hne : ∀ colspan rowspan suppressed alignment cs m',
          Node.leaf l m ≠ .branch (.tableCell colspan rowspan suppressed alignment) cs m' :=
        fun _ _ _ _ _ _ => Node.noConfusion
      simp only [visitCells_cons hne, cellFragments_cons s columns hne]
      exact V.defect _ _
  | columns + 1, .branch k cs m :: cells =>
      rw [allOf_cons, all_branch] at h
      have hcontent := allVisited V h.1.2
      have hrest := cellsVisited V columns h.2
      cases hl : k.layout with
      | cell colspan rowspan suppressed =>
          obtain ⟨alignment, rfl⟩ := layout_eq_cell hl
          simp only [visitCells, cellFragments, reachedCells]
          refine V.andThen ?_ hrest
          cases suppressed with
          | true => exact V.pieces rfl
          | false =>
              exact V.framed (events_cellOpening colspan rowspan) rfl (V.arrive _ _ m hcontent)
      | _ =>
          have hne : ∀ colspan rowspan suppressed,
              k.layout ≠ .cell colspan rowspan suppressed := by
            intro _ _ _ hcell
            rw [hl] at hcell
            cases hcell
          simp only [visitCells_cons (branch_ne_cell hne),
            cellFragments_cons s columns (branch_ne_cell hne)]
          exact V.defect _ _
termination_by sizeOf cells

end

end

/-! ## Emissions one after the other -/

namespace Emission

theorem andThen_of_defect {e : Emission} {d : Defect} (h : e.defect = some d)
    (next : Context → Emission) : e.andThen next = e := by
  simp only [andThen, h]

theorem andThen_congr {e : Emission} {next next' : Context → Emission}
    (h : e.defect = none → next e.context = next' e.context) :
    e.andThen next = e.andThen next' := by
  cases hd : e.defect with
  | some d => rw [andThen_of_defect hd, andThen_of_defect hd]
  | none => simp only [andThen, hd, h hd]

theorem andThen_assoc (e : Emission) (f g : Context → Emission) :
    (e.andThen f).andThen g = e.andThen fun c => (f c).andThen g := by
  cases hd : e.defect with
  | some d => rw [andThen_of_defect hd, andThen_of_defect hd, andThen_of_defect hd]
  | none =>
      cases hf : (f e.context).defect with
      | some d => simp only [andThen, hd, hf]
      | none => simp only [andThen, hd, hf, List.append_assoc]

/-- What two emissions leave alone, one after the other does. -/
theorem definitions_andThen {e : Emission} {c : Context} {next : Context → Emission}
    (he : e.context.definitions = c.definitions)
    (hnext : (next e.context).context.definitions = e.context.definitions) :
    (e.andThen next).context.definitions = c.definitions := by
  cases hd : e.defect with
  | some d => rw [andThen_of_defect hd, he]
  | none => simp only [andThen, hd, hnext, he]

end Emission

theorem emit_append (bodies : Context → Emission) (c : Context) (fs gs : List Fragment) :
    emit bodies c (fs ++ gs) = (emit bodies c fs).andThen fun now => emit bodies now gs := by
  induction fs generalizing c with
  | nil => rfl
  | cons f fs ih =>
      cases f with
      | source s | asset s | cite s => exact ih _
      | record r =>
          simp only [List.cons_append, emit, ih, Emission.andThen]
          cases hd : (emit bodies c fs).defect <;> simp only [hd]
      | noteBodies =>
          simp only [List.cons_append, emit, Emission.andThen_assoc]
          exact Emission.andThen_congr fun _ => ih _
      | defect d => rfl

/-! ## Definitions stay -/

/-- Whether a way to set footnote bodies leaves the definitions alone. -/
def KeepsDefinitions (bodies : Context → Emission) : Prop :=
  ∀ c, (bodies c).context.definitions = c.definitions

theorem definitions_emit {bodies : Context → Emission} (hbodies : KeepsDefinitions bodies)
    (c : Context) (fs : List Fragment) :
    (emit bodies c fs).context.definitions = c.definitions := by
  induction fs generalizing c with
  | nil => rfl
  | cons f fs ih =>
      cases f with
      | source s => exact ih (c.write s)
      | asset url => exact ih (c.use url)
      | cite identifier => exact (ih (c.visit identifier)).trans (c.definitions_visit identifier)
      | record r => exact ih c
      | noteBodies => exact Emission.definitions_andThen (hbodies c) (ih _)
      | defect d => rfl

theorem definitions_emitBodies {bodies : Context → Emission} (hbodies : KeepsDefinitions bodies)
    (options : TypstOptions) (c : Context) (notes : List (String × List Node)) :
    (emitBodies options bodies c notes).context.definitions = c.definitions := by
  induction notes generalizing c with
  | nil => rfl
  | cons note notes ih =>
      rw [emitBodies]
      split
      · exact Emission.definitions_andThen (definitions_emit hbodies c _) (ih _)
      · exact ih c

theorem keepsDefinitions_emitNotes (options : TypstOptions) (levels : Nat) :
    KeepsDefinitions (emitNotes options levels) := by
  induction levels with
  | zero => exact fun c => rfl
  | succ levels ih => exact fun c => definitions_emitBodies ih options c _

/-! ## What a visit sets -/

theorem Progress.toEmission_andThen (p : Progress) (next : Context → Progress) :
    (p.andThen next).toEmission = p.toEmission.andThen fun now => (next now).toEmission := by
  unfold Progress.andThen Emission.andThen
  cases p.defect <;> rfl

section

variable {options : TypstOptions} {bodies : Context → Emission} {s : Setting}

/-- Whether a part of a visit puts the fragments, in every context that holds the
definitions of the setting. -/
def Sets (options : TypstOptions) (bodies : Context → Emission) (s : Setting)
    (part : Context → Progress) (fs : List Fragment) : Prop :=
  ∀ c, c.setting options = s → (part c).toEmission = emit bodies c fs

theorem sets_put (fs : List Fragment) : Sets options bodies s (fun c => put bodies c fs) fs :=
  fun _ _ => rfl

namespace Sets

variable {part next : Context → Progress} {fs gs : List Fragment}

/-- The first part leaves the definitions as they were, so the second puts what it
would have put in their place. -/
theorem andThen (h : Sets options bodies s part fs) (hbodies : KeepsDefinitions bodies)
    (hnext : Sets options bodies s next gs) :
    Sets options bodies s (fun c => (part c).andThen next) (fs ++ gs) := by
  intro c hc
  have hsetting : (emit bodies c fs).context.setting options = s := by
    rw [Context.setting, definitions_emit hbodies c fs]
    exact hc
  rw [Progress.toEmission_andThen, h c hc, emit_append]
  exact Emission.andThen_congr fun _ => hnext _ hsetting

theorem between (h : Sets options bodies s part fs) (hbodies : KeepsDefinitions bodies)
    (k : Branch) :
    Sets options bodies s (fun c => visitBetween options bodies c k part)
      (opening s k ++ fs ++ closing s k) := by
  have hparts := (sets_put (opening s k)).andThen hbodies
    (h.andThen hbodies (sets_put (closing s k)))
  intro c hc
  simp only [visitBetween, hc, List.append_assoc]
  exact hparts c hc

end Sets

theorem sets_correspondence (hbodies : KeepsDefinitions bodies) :
    VisitCorrespondence options bodies s (fun _ => true)
      fun part fs _ => Sets options bodies s part fs where
  pieces _ := sets_put _
  leaf l m c hc := by
    simp only [hc]
    rfl
  defect d _ := sets_put [.defect d]
  arrive _ _ _ h := h
  andThen h hnext := h.andThen hbodies hnext
  between k h := h.between hbodies k
  document _ h := h.andThen hbodies (sets_put documentEnd)

/-- Visiting a tree puts its fragments. -/
theorem sets_visit (hbodies : KeepsDefinitions bodies) (n : Node) :
    Sets options bodies s (fun c => visit options bodies c n) (fragments s n) :=
  visited (sets_correspondence hbodies) (all_of_forall (fun _ => rfl) n)

theorem sets_visitAll (hbodies : KeepsDefinitions bodies) (ns : List Node) :
    Sets options bodies s (fun c => visitAll options bodies c ns) (fragmentsAll s ns) :=
  allVisited (sets_correspondence hbodies) (allOf_of_forall (fun _ => rfl) ns)

end

end TypstPress.Typst
