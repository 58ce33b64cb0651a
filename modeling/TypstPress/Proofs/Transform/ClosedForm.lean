import TypstPress.Proofs.Transform.Commuting
import TypstPress.Proofs.Transform.Remerging

/-!
# What merging leaves, told from what was there

Merging sweeps along the rows and then up the columns, and each step changes
cells that later steps look at. The outcome can still be told place by place
from the table as it was (`MergedRows`). Whether a cell is merged to the left is
a matter of its mark and of the flag that its neighbour had at the start, and
whether it is merged upwards is a matter of what the first sweep left out. Spans
add up along the cells that are merged.

The rows may have any lengths, and the cells may bring spans and flags of their
own. `MergedTree` lifts this to documents: the rows of a table are merged first,
and then the tables inside its cells.
-/

namespace TypstPress.TableSpans

open Node

/-! ## The closed form -/

/-- Whether the cell at a place has a mark. -/
def markAt (mark : Char) (rows : List Row) (r i : Nat) : Bool :=
  (cellAt? rows r i).any fun c => startsWithMark mark c.content

def suppressedAt (rows : List Row) (r i : Nat) : Bool :=
  (cellAt? rows r i).any Cell.suppressed

/-- Whether the cell at a place is merged into the one on its left. -/
def mergesLeft (rows : List Row) (r : Nat) : Nat → Bool
  | 0 => false
  | i + 1 => markAt '<' rows r (i + 1) && !suppressedAt rows r i

/-- Whether the cell at a place is left out once its row has been merged. -/
def leftOut (rows : List Row) (r i : Nat) : Bool := suppressedAt rows r i || mergesLeft rows r i

/-- Whether the cell at a place is merged into the one above. -/
def mergesUp (rows : List Row) : Nat → Nat → Bool
  | 0, _ => false
  | r + 1, i =>
    markAt '^' rows (r + 1) i && !leftOut rows (r + 1) i && (cellAt? rows r i).isSome &&
      !leftOut rows r i

/-- The colspan of the cell at a place, if there is one. -/
def colspanAt (rows : List Row) (r i : Nat) : Nat := ((cellAt? rows r i).map Cell.colspan).getD 0

def rowspanAt (rows : List Row) (r i : Nat) : Nat := ((cellAt? rows r i).map Cell.rowspan).getD 0

/-- A row without its cells: whether it is a header, its length and its metadata. -/
def Row.frame (row : Row) : Bool × Nat × Metadata := (row.isHeader, row.cells.length, row.metadata)

/-- Whether some rows are what merging leaves of others. -/
structure MergedRows (rows after : List Row) : Prop where
  frames : after.map Row.frame = rows.map Row.frame
  cells : ∀ r i, cellAt? after r i = (cellAt? rows r i).map fun c =>
    { c with
      colspan := c.colspan + if mergesLeft rows r (i + 1) then colspanAt after r (i + 1) else 0
      rowspan := c.rowspan + if mergesUp rows (r + 1) i then rowspanAt after (r + 1) i else 0
      suppressed := leftOut rows r i || mergesUp rows r i }

/-- The places of the cells of some rows: the row and the place in it. -/
def places (rows : List Row) : List (Nat × Nat) :=
  (List.range rows.length).flatMap fun r => (List.range (rowCells rows r).length).map (r, ·)

def countPlaces (rows : List Row) (p : Nat → Nat → Bool) : Nat :=
  (places rows).countP fun place => p place.1 place.2

/-! ## Cells that are merged -/

theorem fromLeft_eq (rows : List Row) (r i : Nat) : fromLeft rows r i = mergesLeft rows r i := by
  cases i with
  | zero => rfl
  | succ i =>
      rw [fromLeft, Joining.absorbed, mergesLeft, markAt, suppressedAt, cellAt?, cellAt?]
      cases hcell : (rowCells rows r)[i + 1]? with
      | none =>
          split
          · next heq => cases heq
          · rfl
      | some d =>
          have hlt : i + 1 < (rowCells rows r).length := (List.getElem?_eq_some_iff.1 hcell).1
          have hleft := List.getElem?_eq_getElem (l := rowCells rows r) (i := i) (by omega)
          rw [hleft]
          rfl

theorem leftOut_eq {rows : List Row} {r i : Nat} {c : Cell} (h : cellAt? rows r i = some c) :
    leftOut rows r i = (c.suppressed || fromLeft rows r i) := by
  rw [leftOut, suppressedAt, h, fromLeft_eq]
  rfl

/-- Up a column it takes two cells that the first sweep left. -/
theorem fromAbove_eq {rows : List Row} {r : Nat} (hr : r < rows.length) (i : Nat) :
    fromAbove rows r i = mergesUp rows r i := by
  have hlength : (rows.map Row.joined).length = rows.length := List.length_map ..
  cases r with
  | zero => rfl
  | succ r =>
      rw [fromAbove, Joining.absorbed, column_getElem? (by omega), column_getElem? (by omega),
        cellAt?_joined, cellAt?_joined, mergesUp, markAt]
      cases hcell : cellAt? rows (r + 1) i with
      | none =>
          cases cellAt? rows r i with
          | none => rfl
          | some a => rfl
      | some c =>
          cases habove : cellAt? rows r i with
          | none => simp [upward]
          | some a =>
              rw [leftOut_eq hcell, leftOut_eq habove]
              simp [upward, Cell.joinsBelow]

theorem cellAt?_of_le {rows : List Row} {r : Nat} (h : rows.length ≤ r) (i : Nat) :
    cellAt? rows r i = none := by
  rw [cellAt?, rowCells, List.getElem?_eq_none h]
  rfl

/-- The last row has nothing below it. -/
theorem mergesUp_of_le {rows : List Row} {r : Nat} (hr : rows.length ≤ r) (i : Nat) :
    mergesUp rows r i = false := by
  cases r with
  | zero => rfl
  | succ r =>
      rw [mergesUp, markAt, cellAt?_of_le hr]
      rfl

theorem fromAbove_eq_mergesUp (rows : List Row) (r i : Nat) :
    fromAbove rows r i = mergesUp rows r i := by
  by_cases hr : r < rows.length
  · exact fromAbove_eq hr i
  · rw [mergesUp_of_le (by omega), fromAbove, Joining.absorbed_of_length_le]
    rw [column, List.length_map, List.length_map]
    omega

/-! ## The cells -/

theorem Joining.length_chain {α : Type} (J : Joining α) (xs : List α) :
    (J.chain xs).length = xs.length := by
  induction xs with
  | nil => rfl
  | cons x xs ih =>
      rw [Joining.chain, List.length_cons, ← ih]
      cases J.chain xs with
      | nil => rfl
      | cons y ys => rfl

theorem length_joinUp (above cells : List Cell) :
    (joinUp above cells).1.length = above.length ∧
      (joinUp above cells).2.length = cells.length := by
  induction above generalizing cells with
  | nil => cases cells <;> exact ⟨rfl, rfl⟩
  | cons a above ih =>
      cases cells with
      | nil => exact ⟨rfl, rfl⟩
      | cons c cells =>
          obtain ⟨habove, hcells⟩ := ih cells
          rw [joinUp]
          split
          · simp [habove, hcells]
          · simp [habove, hcells]

theorem frame_joinRows (rows : List Row) : (joinRows rows).map Row.frame = rows.map Row.frame := by
  induction rows with
  | nil => rfl
  | cons row rows ih =>
      rw [joinRows, List.map_cons, ← ih]
      cases joinRows rows with
      | nil => rfl
      | cons below others =>
          obtain ⟨habove, hcells⟩ := length_joinUp row.cells below.cells
          simp [Row.frame, habove, hcells]

theorem frame_joined (row : Row) : row.joined.frame = row.frame := by
  rw [Row.frame, Row.frame, Row.joined, Joining.length_chain]

theorem colspanOf_eq {rows : List Row} {r i : Nat} {c : Cell} (h : cellAt? rows r i = some c) :
    colspanOf rows r i =
      c.colspan + if mergesLeft rows r (i + 1) then colspanOf rows r (i + 1) else 0 := by
  rw [colspanOf, Joining.reach_drop h, ← fromLeft_eq]
  rfl

theorem rowspanOf_eq {rows : List Row} {r i : Nat} {c : Cell} (hr : r < rows.length)
    (h : cellAt? rows r i = some c) :
    rowspanOf rows r i =
      c.rowspan + if mergesUp rows (r + 1) i then rowspanOf rows (r + 1) i else 0 := by
  have hjoined : (column i (rows.map Row.joined))[r]? = some (some { c with
      colspan := colspanOf rows r i
      suppressed := c.suppressed || fromLeft rows r i }) := by
    rw [column_getElem? (by rwa [List.length_map]), cellAt?_joined, h]
    rfl
  rw [rowspanOf, Joining.reach_drop hjoined, ← fromAbove_eq_mergesUp]
  rfl

theorem exists_cell_of_markAt {mark : Char} {rows : List Row} {r i : Nat}
    (h : markAt mark rows r i = true) : ∃ c, cellAt? rows r i = some c := by
  rw [markAt] at h
  cases hcell : cellAt? rows r i with
  | none =>
      rw [hcell] at h
      cases h
  | some c => exact ⟨c, rfl⟩

theorem lt_length_of_cellAt? {rows : List Row} {r i : Nat} {c : Cell}
    (h : cellAt? rows r i = some c) : r < rows.length := by
  refine Nat.lt_of_not_le fun hr => ?_
  rw [cellAt?_of_le hr] at h
  cases h

theorem exists_row_of_cellAt? {rows : List Row} {r i : Nat} {c : Cell}
    (h : cellAt? rows r i = some c) : ∃ row ∈ rows, c ∈ row.cells := by
  have hr := lt_length_of_cellAt? h
  rw [cellAt?, rowCells, List.getElem?_eq_getElem hr] at h
  exact ⟨rows[r], List.getElem_mem hr, List.mem_of_getElem? h⟩

/-- A cell that is merged to the left has the colspan that its neighbour takes
in, and likewise upwards. -/
theorem colspanAt_merged {rows : List Row} {r i : Nat} (h : mergesLeft rows r (i + 1) = true) :
    colspanAt (joinRows (rows.map Row.joined)) r (i + 1) = colspanOf rows r (i + 1) := by
  rw [mergesLeft, Bool.and_eq_true] at h
  obtain ⟨c, hc⟩ := exists_cell_of_markAt h.1
  rw [colspanAt, cellAt?_merged (lt_length_of_cellAt? hc), hc]
  rfl

theorem rowspanAt_merged {rows : List Row} {r i : Nat} (h : mergesUp rows (r + 1) i = true) :
    rowspanAt (joinRows (rows.map Row.joined)) (r + 1) i = rowspanOf rows (r + 1) i := by
  rw [mergesUp, Bool.and_eq_true, Bool.and_eq_true, Bool.and_eq_true] at h
  obtain ⟨c, hc⟩ := exists_cell_of_markAt h.1.1.1
  rw [rowspanAt, cellAt?_merged (lt_length_of_cellAt? hc), hc]
  rfl

theorem mergedRows_joinRows (rows : List Row) :
    MergedRows rows (joinRows (rows.map Row.joined)) where
  frames := by
    rw [frame_joinRows, List.map_map]
    exact List.map_congr_left fun row _ => frame_joined row
  cells r i := by
    have hcolspan : (if mergesLeft rows r (i + 1) then
          colspanAt (joinRows (rows.map Row.joined)) r (i + 1) else 0) =
        if mergesLeft rows r (i + 1) then colspanOf rows r (i + 1) else 0 := by
      split
      · next h => exact colspanAt_merged h
      · rfl
    have hrowspan : (if mergesUp rows (r + 1) i then
          rowspanAt (joinRows (rows.map Row.joined)) (r + 1) i else 0) =
        if mergesUp rows (r + 1) i then rowspanOf rows (r + 1) i else 0 := by
      split
      · next h => exact rowspanAt_merged h
      · rfl
    rw [hcolspan, hrowspan]
    by_cases hr : r < rows.length
    · rw [cellAt?_merged hr]
      refine Option.map_congr fun c hc => ?_
      rw [colspanOf_eq hc, rowspanOf_eq hr hc, fromAbove_eq_mergesUp, ← leftOut_eq hc]
    · have hlength : (joinRows (rows.map Row.joined)).length = rows.length := by
        rw [length_joinRows, List.length_map]
      rw [cellAt?_of_le (by omega), cellAt?_of_le (by omega)]
      rfl

/-! ## The counts -/

/-- The first of a row is absorbed by nothing, so a row has as many absorbed
places as there are behind the first. -/
theorem countP_range_succ {p : Nat → Bool} (h : p 0 = false) (n : Nat) :
    (List.range (n + 1)).countP p = (List.range n).countP fun i => p (i + 1) := by
  rw [List.range_succ_eq_map, List.countP_cons_of_neg (by simp [h]), List.countP_map]
  rfl

/-- What takes in a neighbour takes it in as well after that one has grown. -/
theorem Joining.joins_head {α : Type} {J : Joining α} {y y' : α} {ys ys' : List α}
    (h : J.chain (y :: ys) = y' :: ys') (x : α) : J.joins x y' = J.joins x y := by
  have hfirst := J.chain_getElem? (y :: ys) 0
  rw [h] at hfirst
  injection hfirst with hfirst
  rw [hfirst]
  exact joins_grown

theorem mergeRow_merged (cells : List Cell) :
    (mergeRow (cells.map Cell.node)).merged =
      (List.range cells.length).countP (leftward.absorbed cells) := by
  induction cells with
  | nil => rfl
  | cons c cells ih =>
      obtain ⟨hvalue, hfailure⟩ := mergeRow_node cells
      rw [List.map_cons, mergeRow, List.length_cons, countP_range_succ rfl]
      simp only [hvalue, hfailure]
      cases cells with
      | nil => rfl
      | cons d ds =>
          have hlength := leftward.length_chain (d :: ds)
          rw [List.length_cons, countP_range_succ rfl] at ih
          rw [List.length_cons, List.range_succ_eq_map, List.countP_cons, List.countP_map]
          cases hchain : leftward.chain (d :: ds) with
          | nil =>
              rw [hchain] at hlength
              cases hlength
          | cons d' ds' =>
              rw [List.map_cons]
              simp only [mergeLeft_node, ih, Joining.joins_head hchain]
              rfl

theorem places_cons (row : Row) (rows : List Row) :
    places (row :: rows) =
      (List.range row.cells.length).map (0, ·) ++
        (places rows).map fun place => (place.1 + 1, place.2) := by
  rw [places, List.length_cons, List.range_succ_eq_map, List.flatMap_cons, List.flatMap_map,
    places, List.map_flatMap]
  simp only [List.map_map]
  rfl

theorem countPlaces_cons (row : Row) (rows : List Row) (p : Nat → Nat → Bool) :
    countPlaces (row :: rows) p =
      (List.range row.cells.length).countP (p 0) + countPlaces rows fun r => p (r + 1) := by
  rw [countPlaces, places_cons, List.countP_append, List.countP_map, List.countP_map]
  rfl

theorem mergeColumns_merged (rows : List Row) :
    (mergeColumns (rows.map Row.node)).merged = countPlaces rows (fromLeft rows) := by
  induction rows with
  | nil => rfl
  | cons row rows ih =>
      have hcells : rowCells? row.node = some (row.cells.map Cell.node) := rfl
      rw [List.map_cons, mergeColumns, hcells, countPlaces_cons]
      simp only [(mergeRow_node row.cells).2, mergeRow_merged, ih]
      rfl

theorem mergeRowUp_merged (above cells : List Cell) :
    (mergeRowUp (above.map Cell.node) (cells.map Cell.node)).merged =
      (List.range cells.length).countP fun i => upward.joins above[i]? cells[i]? := by
  induction cells generalizing above with
  | nil => cases above <;> rfl
  | cons c cells ih =>
      rw [List.map_cons, mergeRowUp, List.length_cons, List.range_succ_eq_map, List.countP_cons,
        List.countP_map]
      cases above with
      | nil =>
          have hrest := ih []
          rw [List.map_nil] at hrest
          rw [List.map_nil, List.head?_nil, mergeUp_none]
          simp only [List.tail_nil, hrest]
          rfl
      | cons a above =>
          rw [List.map_cons, List.head?_cons, mergeUp_node]
          simp only [List.tail_cons, ih above]
          rfl

/-- Nothing in the first row is merged upwards. -/
theorem countPlaces_fromAbove_cons (row : Row) (rows : List Row) :
    (countPlaces (row :: rows) fun r i => upward.absorbed (column i (row :: rows)) r) =
      countPlaces rows fun r i => upward.absorbed (column i (row :: rows)) (r + 1) := by
  have hfirst : (List.range row.cells.length).countP (fun i =>
      upward.absorbed (column i (row :: rows)) 0) = 0 :=
    congrFun List.countP_false _
  rw [countPlaces_cons, hfirst, Nat.zero_add]

theorem mergeRows_merged (rows : List Row) :
    (mergeRows (rows.map Row.node)).merged =
      countPlaces rows fun r i => upward.absorbed (column i rows) r := by
  induction rows with
  | nil => rfl
  | cons row rows ih =>
      obtain ⟨hvalue, hfailure⟩ := mergeRows_node rows
      have hcells : ∀ row : Row, rowCells? row.node = some (row.cells.map Cell.node) :=
        fun _ => rfl
      rw [List.map_cons, mergeRows, countPlaces_fromAbove_cons]
      simp only [hvalue, hfailure, ih]
      cases rows with
      | nil => rfl
      | cons below others =>
          have hframe := frame_joinRows (below :: others)
          have hcolumn := fun i => column_joinRows i (below :: others)
          rw [countPlaces_fromAbove_cons, countPlaces_cons]
          cases hjoined : joinRows (below :: others) with
          | nil =>
              rw [hjoined] at hframe
              cases hframe
          | cons below' others' =>
              rw [hjoined, List.map_cons, List.map_cons] at hframe
              -- the row below has been merged already, which leaves its length and its marks
              have hlength : below'.cells.length = below.cells.length :=
                congrArg (fun frame => frame.2.1) (List.cons.inj hframe).1
              have hjoins : ∀ i, upward.joins row.cells[i]? below'.cells[i]? =
                  upward.joins row.cells[i]? below.cells[i]? := fun i => by
                have hchain := hcolumn i
                rw [hjoined] at hchain
                exact Joining.joins_head hchain.symm _
              simp only [List.map_cons, hcells, mergeRowUp_merged, hlength, hjoins]
              exact Nat.add_comm _ _

theorem countPlaces_joined (rows : List Row) (p : Nat → Nat → Bool) :
    countPlaces (rows.map Row.joined) p = countPlaces rows p := by
  have hlength : ∀ r, (rowCells (rows.map Row.joined) r).length = (rowCells rows r).length :=
    fun r => by rw [rowCells_joined, Joining.length_chain]
  simp only [countPlaces, places, List.length_map, hlength]

/-! ## Trees -/

/-- Whether some nodes are rows of cells. -/
def IsGrid (ns : List Node) : Prop := ∃ rows : List Row, ns = rows.map Row.node

/-- What merging leaves of a tree: the rows of every table are merged, and then
the tables inside its cells are. -/
inductive MergedTree : Node → Node → Prop
  | leaf (l : Leaf) (m : Metadata) : MergedTree (.leaf l m) (.leaf l m)
  | table {headed : Bool} {alignments : List (Option String)} {rows after : List Row}
      {cs' : List Node} {m : Metadata} (h : MergedRows rows after)
      (hbelow : List.Forall₂ MergedTree (after.map Row.node) cs') :
      MergedTree (.branch (.table headed alignments) (rows.map Row.node) m)
        (.branch (.table headed alignments) cs' m)
  | branch {k : Branch} {cs cs' : List Node} {m : Metadata}
      (hk : ∀ headed alignments, k ≠ .table headed alignments)
      (hbelow : List.Forall₂ MergedTree cs cs') : MergedTree (.branch k cs m) (.branch k cs' m)

/-- Where every table holds rows of cells, a branch is such a table or none. -/
theorem EveryTable.rows_or_ne_table {k : Branch} {cs : List Node} {m : Metadata}
    (h : EveryTable IsGrid (.branch k cs m)) :
    (∃ headed alignments, ∃ rows : List Row, k = .table headed alignments ∧
      cs = rows.map Row.node) ∨
      ∀ headed alignments, k ≠ .table headed alignments := by
  by_cases hk : ∃ headed alignments, k = .table headed alignments
  · obtain ⟨headed, alignments, rfl⟩ := hk
    obtain ⟨rows, rfl⟩ := (everyTable_branch_iff.1 h).1 headed alignments rfl
    exact .inl ⟨headed, alignments, rows, rfl, rfl⟩
  · exact .inr fun headed alignments heq => hk ⟨headed, alignments, heq⟩

theorem mergeTree_finishes {n : Node} (h : EveryTable IsGrid n) : (mergeTree n).failure = none := by
  induction n using Node.induction with
  | leaf l m => rw [mergeTree]
  | branch k cs m ih =>
      have hbelow := mergeTrees_failure_iff.2 fun c hc =>
        ih c hc ((everyTable_branch_iff.1 h).2 c hc)
      obtain ⟨headed, alignments, rows, rfl, rfl⟩ | hk := h.rows_or_ne_table
      · rw [(mergeTree_table (mergeTable_node rows).1 headed alignments m).1, hbelow]
      · rw [(mergeTree_of_ne_table hk cs m).1, hbelow]

theorem merged_of_ne_table {k : Branch} (hk : ∀ headed alignments, k ≠ .table headed alignments)
    {cs : List Node} (h : ∀ c ∈ cs, (mergeTree c).failure = none) (m : Metadata) :
    merged (.branch k cs m) = .branch k (cs.map merged) m := by
  rw [merged, (mergeTree_of_ne_table hk cs m).2, mergeTrees_eq_map h]
  rfl

theorem tableRow_ne_table (isHeader headed : Bool) (alignments : List (Option String)) :
    Branch.tableRow isHeader ≠ .table headed alignments := by
  intro h
  cases h

theorem cell_ne_table (c : Cell) (headed : Bool) (alignments : List (Option String)) :
    Branch.tableCell c.colspan c.rowspan c.suppressed c.alignment ≠ .table headed alignments := by
  intro h
  cases h

theorem merged_row {row : Row} (h : EveryTable IsGrid row.node) :
    merged row.node = (row.withContent (·.map merged)).node := by
  rw [Row.node, everyTable_branch_iff] at h
  have hcell : ∀ c ∈ row.cells, merged c.node = (c.withContent (·.map merged)).node := by
    intro c hc
    have hcontent := h.2 c.node (List.mem_map_of_mem hc)
    rw [Cell.node, everyTable_branch_iff] at hcontent
    rw [Cell.node, merged_of_ne_table (cell_ne_table c)
      fun n hn => mergeTree_finishes (hcontent.2 n hn)]
    rfl
  rw [Row.node, merged_of_ne_table (tableRow_ne_table row.isHeader)
    fun c hc => mergeTree_finishes (h.2 c hc), map_cells_eq hcell]
  rfl

variable {f : List Node → List Node}

/-- A row stands for a merged one if the contents of its cells do. -/
theorem mergedTree_row_iff {row : Row} :
    MergedTree row.node (row.withContent f).node ↔
      ∀ c ∈ row.cells, List.Forall₂ MergedTree c.content (f c.content) := by
  have hcells : List.Forall₂ MergedTree (row.cells.map Cell.node)
      ((row.withContent f).cells.map Cell.node) ↔
        ∀ c ∈ row.cells, MergedTree c.node (c.withContent f).node := by
    rw [Row.withContent, List.map_map, List.forall₂_map_left_iff, List.forall₂_map_right_iff,
      List.forall₂_same]
    rfl
  constructor
  · intro h c hc
    rw [Row.node, Row.node] at h
    cases h with
    | branch _ hbelow =>
        have hcell := hcells.1 hbelow c hc
        rw [Cell.node, Cell.node] at hcell
        cases hcell with
        | branch _ hcontent => exact hcontent
  · intro h
    exact .branch (tableRow_ne_table row.isHeader)
      (hcells.2 fun c hc => .branch (cell_ne_table c) (h c hc))

/-- Merging keeps the contents of cells. -/
theorem exists_content_of_mem {rows : List Row} {row : Row} {c : Cell}
    (hrow : row ∈ joinRows (rows.map Row.joined)) (hc : c ∈ row.cells) :
    ∃ row₀ ∈ rows, ∃ c₀ ∈ row₀.cells, c₀.content = c.content := by
  obtain ⟨r, hrow⟩ := List.mem_iff_getElem?.1 hrow
  obtain ⟨i, hi⟩ := List.mem_iff_getElem?.1 hc
  have hcell : cellAt? (joinRows (rows.map Row.joined)) r i = some c := by
    rw [cellAt?, rowCells, hrow]
    exact hi
  rw [(mergedRows_joinRows rows).cells, Option.map_eq_some_iff] at hcell
  obtain ⟨c₀, hc₀, rfl⟩ := hcell
  obtain ⟨row₀, hrow₀, hmem⟩ := exists_row_of_cellAt? hc₀
  exact ⟨row₀, hrow₀, c₀, hmem, rfl⟩

theorem keepsMarks_merged : KeepsMarks (·.map merged) :=
  fun mark content => startsWithMark_map keepsLeaves_merged mark content

/-- A table can be merged with the tables in its cells left out and put back
afterwards. -/
theorem merged_table {rows : List Row} {headed : Bool} {alignments : List (Option String)}
    {m : Metadata}
    (h : EveryTable IsGrid (.branch (.table headed alignments) (rows.map Row.node) m)) :
    merged (.branch (.table headed alignments) (rows.map Row.node) m) =
      .branch (.table headed alignments)
        (((joinRows (rows.map Row.joined)).map (Row.withContent (·.map merged))).map Row.node)
        m := by
  have hbelow := (everyTable_branch_iff.1 h).2
  have hrows : (rows.map Row.node).map merged =
      (rows.map (Row.withContent (·.map merged))).map Row.node := by
    rw [List.map_map, List.map_map]
    exact List.map_congr_left fun row hrow => merged_row (hbelow _ (List.mem_map_of_mem hrow))
  have hjoined : (rows.map (Row.withContent (·.map merged))).map Row.joined =
      (rows.map Row.joined).map (Row.withContent (·.map merged)) := by
    rw [List.map_map, List.map_map]
    exact List.map_congr_left fun row _ => joined_withContent keepsMarks_merged row
  rw [merged, (mergeTree_table (mergeTable_node rows).1 headed alignments m).2,
    (mergeTrees_eq fun row hrow => mergeTree_finishes (hbelow row hrow)).1, hrows,
    (mergeTable_node _).2, hjoined, joinRows_withContent keepsMarks_merged]

theorem mergedTree_merged {n : Node} (h : EveryTable IsGrid n) : MergedTree n (merged n) := by
  induction n using Node.induction with
  | leaf l m =>
      rw [merged_leaf]
      exact .leaf l m
  | branch k cs m ih =>
      have hbelow := (everyTable_branch_iff.1 h).2
      obtain ⟨headed, alignments, rows, rfl, rfl⟩ | hk := h.rows_or_ne_table
      · rw [merged_table h]
        refine .table (mergedRows_joinRows rows) ?_
        rw [List.map_map, List.forall₂_map_left_iff, List.forall₂_map_right_iff, List.forall₂_same]
        intro row hrow
        refine mergedTree_row_iff.2 fun c hc => ?_
        -- the cell's content is that of a cell that was there before
        obtain ⟨row₀, hrow₀, c₀, hc₀, hcontent⟩ := exists_content_of_mem hrow hc
        have hmem := List.mem_map_of_mem (f := Row.node) hrow₀
        have hold := ih row₀.node hmem (hbelow _ hmem)
        rw [merged_row (hbelow _ hmem)] at hold
        rw [← hcontent]
        exact mergedTree_row_iff.1 hold c₀ hc₀
      · rw [merged_of_ne_table hk fun c hc => mergeTree_finishes (hbelow c hc)]
        refine .branch hk ?_
        rw [List.forall₂_map_right_iff, List.forall₂_same]
        exact fun c hc => ih c hc (hbelow c hc)

/-- What merging does, in closed form. On the rows of a table, merging along the
rows and then up the columns never fails, leaves of each cell what is told by the
cells as they were, and counts the cells that are merged each way. In a document
whose tables all hold rows of cells it does this to every table, wherever that
stands, and to nothing else. -/
theorem merged_closedForm :
    (∀ rows : List Row,
      (mergeColumns (rows.map Row.node)).failure = none ∧
        (mergeRows (mergeColumns (rows.map Row.node)).value).failure = none ∧
        (mergeColumns (rows.map Row.node)).merged = countPlaces rows (mergesLeft rows) ∧
        (mergeRows (mergeColumns (rows.map Row.node)).value).merged =
          countPlaces rows (mergesUp rows) ∧
        ∃ after, (mergeRows (mergeColumns (rows.map Row.node)).value).value = after.map Row.node ∧
          MergedRows rows after) ∧
    ∀ document : Node, document.isDocument = true → EveryTable IsGrid document →
      (Transform.tableSpans.run document).failure = none ∧
        MergedTree document (Transform.tableSpans.run document).tree := by
  refine ⟨fun rows => ?_, fun document hdocument htables => ?_⟩
  · obtain ⟨hcolumns, hcolumnsDone⟩ := mergeColumns_node rows
    obtain ⟨hspans, hspansDone⟩ := mergeRows_node (rows.map Row.joined)
    have hleft : fromLeft rows = mergesLeft rows := funext₂ (fromLeft_eq rows)
    have habove : fromAbove rows = mergesUp rows := funext₂ (fromAbove_eq_mergesUp rows)
    rw [hcolumns, mergeColumns_merged, mergeRows_merged, countPlaces_joined, ← hleft, ← habove]
    exact ⟨hcolumnsDone, hspansDone, rfl, rfl, _, hspans, mergedRows_joinRows rows⟩
  · rw [Transform.run_of_isDocument _ hdocument]
    exact ⟨mergeTree_finishes htables, mergedTree_merged htables⟩

/-- A row with one table in it. -/
def innerRow : Row :=
  { isHeader := true
    cells := [⟨1, 1, false, none, [.ofText "b"], []⟩, ⟨1, 1, false, none, [.ofText "<"], []⟩]
    metadata := [] }

/-- Rows of two lengths. The first cell spans two columns to begin with and holds
a table, and the mark below it is suppressed to begin with. -/
def outerRows : List Row :=
  [{ isHeader := true
     cells :=
      [⟨2, 1, false, none, [.ofText "a", .ofBranch (.table true []) ([innerRow].map Row.node)], []⟩,
        ⟨1, 1, false, none, [.ofText "<"], []⟩, ⟨3, 1, false, none, [.ofText "<"], []⟩]
     metadata := [] },
    { isHeader := false, cells := [⟨1, 1, true, none, [.ofText "^"], []⟩], metadata := [] }]

def nestedTables : Node :=
  .ofBranch .document [.ofBranch (.table true []) (outerRows.map Row.node)]

theorem everyTable_nestedTables : EveryTable IsGrid nestedTables := by
  have hinner : IsGrid [innerRow.node] := ⟨[innerRow], rfl⟩
  have houter : IsGrid (outerRows.map Row.node) := ⟨outerRows, rfl⟩
  simpa [nestedTables, outerRows, innerRow, ofBranch, ofText, ofLeaf, everyTable_branch_iff,
    everyTable_leaf, Row.node, Cell.node] using And.intro houter hinner

theorem nestedTables_closedForm :
    nestedTables.isDocument = true ∧ EveryTable IsGrid nestedTables ∧
      (Transform.tableSpans.run nestedTables).failure = none ∧
      MergedTree nestedTables (Transform.tableSpans.run nestedTables).tree ∧
      (mergeColumns (outerRows.map Row.node)).merged = 2 ∧
      ∃ after, MergedRows outerRows after ∧ colspanAt after 0 0 = 6 ∧ rowspanAt after 0 0 = 1 := by
  obtain ⟨hdone, hmerged⟩ := merged_closedForm.2 nestedTables rfl everyTable_nestedTables
  obtain ⟨-, -, hcount, -, after, -, hafter⟩ := merged_closedForm.1 outerRows
  -- the spans are read off from the right
  have hlast : colspanAt after 0 2 = 3 := by rw [colspanAt, hafter.cells]; rfl
  have hmiddle : colspanAt after 0 1 = 1 + colspanAt after 0 2 := by
    rw [colspanAt, hafter.cells]; rfl
  have hfirst : colspanAt after 0 0 = 2 + colspanAt after 0 1 := by
    rw [colspanAt, hafter.cells]; rfl
  have habove : rowspanAt after 0 0 = 1 := by rw [rowspanAt, hafter.cells]; rfl
  exact ⟨rfl, everyTable_nestedTables, hdone, hmerged, hcount.trans (by decide), after, hafter,
    by omega, habove⟩

end TypstPress.TableSpans
