import TypstPress.Proofs.Document.Place
import TypstPress.Proofs.Transform.ClosedForm
import TypstPress.Proofs.Transform.Tiling
import TypstPress.Proofs.Typst.Malformed

/-!
# Spans in the table that is set

Merging knows the length of each row, and setting the number of columns of the
table. A table is set with as many columns as it has alignments, or as its first
row has cells if it has none, so a row can be longer than that. The cells behind
the last column are left out then, but a cell before them keeps the spans that
they gave it.

So spans always fit into the rows, and into the columns unless a run of marks
goes on behind the last column (`emitted_spans_fit_iff`). The rows may have any
lengths, which is why the arithmetic of `Runs` is used row by row here, and not
that of a grid.
-/

namespace TypstPress

open Node

namespace TableSpans

/-! ## Tables in a merged document -/

theorem at?_rows (k : Branch) (rows : List Row) (m : Metadata) (r i : Nat) (place : List Nat) :
    (Node.branch k (rows.map Row.node) m).at? (r :: i :: place) =
      (cellAt? rows r i).bind (·.node.at? place) := by
  rw [at?_branch, cellAt?, rowCells, List.getElem?_map]
  cases rows[r]? with
  | none => rfl
  | some row =>
      show row.node.at? (i :: place) = _
      rw [Row.node, at?_branch, List.getElem?_map]
      show _ = (row.cells[i]?).bind _
      cases row.cells[i]? with
      | none => rfl
      | some c => rfl

theorem cellAt?_withContent (f : List Node → List Node) (rows : List Row) (r i : Nat) :
    cellAt? (rows.map (Row.withContent f)) r i = (cellAt? rows r i).map (Cell.withContent f) := by
  rw [cellAt?, cellAt?, rowCells, rowCells, List.getElem?_map]
  cases rows[r]? with
  | none => rfl
  | some row => exact List.getElem?_map ..

theorem frame_withContent (f : List Node → List Node) (rows : List Row) :
    (rows.map (Row.withContent f)).map Row.frame = rows.map Row.frame := by
  rw [List.map_map]
  refine List.map_congr_left fun row _ => ?_
  simp [Row.frame, Row.withContent]

theorem everyTable_content {rows : List Row} {k : Branch} {m : Metadata}
    (h : EveryTable IsGrid (.branch k (rows.map Row.node) m)) {r i : Nat} {c : Cell}
    (hc : cellAt? rows r i = some c) : ∀ n ∈ c.content, EveryTable IsGrid n := by
  obtain ⟨row, hrow, hmem⟩ := exists_row_of_cellAt? hc
  have hrows := (everyTable_branch_iff.1 h).2 row.node (List.mem_map_of_mem hrow)
  rw [Row.node, everyTable_branch_iff] at hrows
  have hcell := hrows.2 c.node (List.mem_map_of_mem hmem)
  rw [Cell.node, everyTable_branch_iff] at hcell
  exact hcell.2

/-- A table is neither a row nor a cell, so one that stands in another table
stands in the content of a cell. -/
theorem exists_cell_of_at? {k : Branch} {rows : List Row} {d : Metadata} {i : Nat}
    {place : List Nat} {headed : Bool} {alignments : List (Option String)} {cs : List Node}
    {m : Metadata} (h : (Node.branch k (rows.map Row.node) d).at? (i :: place) =
      some (.branch (.table headed alignments) cs m)) :
    ∃ j l below c child, place = j :: l :: below ∧ cellAt? rows i j = some c ∧
      c.content[l]? = some child ∧
        child.at? below = some (.branch (.table headed alignments) cs m) := by
  match place with
  | [] =>
      rw [at?_branch, List.getElem?_map] at h
      cases hrow : rows[i]? with
      | none =>
          rw [hrow] at h
          cases h
      | some row =>
          rw [hrow] at h
          cases h
  | [j] =>
      rw [at?_rows, Option.bind_eq_some_iff] at h
      obtain ⟨c, -, h⟩ := h
      cases h
  | j :: l :: below =>
      rw [at?_rows, Option.bind_eq_some_iff] at h
      obtain ⟨c, hc, h⟩ := h
      rw [Cell.node, at?_branch, Option.bind_eq_some_iff] at h
      obtain ⟨child, hchild, h⟩ := h
      exact ⟨j, l, below, c, child, rfl, hc, hchild, h⟩

/-- A merged document has its tables where they were, each of them merged. -/
theorem at?_merged {n : Node} (h : EveryTable IsGrid n) {place : List Nat} {headed : Bool}
    {alignments : List (Option String)} {cs : List Node} {m : Metadata}
    (hat : n.at? place = some (.branch (.table headed alignments) cs m)) :
    (merged n).at? place = some (merged (.branch (.table headed alignments) cs m)) := by
  -- into a table the place goes down by three: to a row, a cell and a node of its content
  induction hlength : place.length using Nat.strong_induction_on generalizing n place with
  | _ length ih =>
      cases place with
      | nil =>
          cases hat
          rfl
      | cons i place =>
          cases n with
          | leaf l d => cases hat
          | branch k ns d =>
              have hbelow := (everyTable_branch_iff.1 h).2
              obtain ⟨headed', alignments', rows, rfl, rfl⟩ | hk := h.rows_or_ne_table
              · obtain ⟨j, l, place, c, child, rfl, hc, hchild, hat⟩ := exists_cell_of_at? hat
                rw [merged_table h, at?_rows, cellAt?_withContent,
                  (mergedRows_joinRows rows).cells, hc, Option.map_some, Option.map_some,
                  Option.bind_some, Cell.node, at?_branch, Cell.withContent, List.getElem?_map,
                  hchild]
                simp only [List.length_cons] at hlength
                exact ih place.length (by omega)
                  (everyTable_content h hc child (List.mem_of_getElem? hchild)) hat rfl
              · rw [at?_branch, Option.bind_eq_some_iff] at hat
                obtain ⟨child, hchild, hat⟩ := hat
                rw [merged_of_ne_table hk fun c hc => mergeTree_finishes (hbelow c hc),
                  at?_branch, List.getElem?_map, hchild]
                rw [List.length_cons] at hlength
                exact ih place.length (by omega) (hbelow child (List.mem_of_getElem? hchild)) hat
                  rfl

theorem EveryTable.at? {P : List Node → Prop} {n n' : Node} {place : List Nat}
    (h : EveryTable P n) (hat : n.at? place = some n') : EveryTable P n' := by
  induction place generalizing n with
  | nil =>
      cases hat
      exact h
  | cons i place ih =>
      cases n with
      | leaf l m => cases hat
      | branch k cs m =>
          rw [at?_branch, Option.bind_eq_some_iff] at hat
          obtain ⟨child, hchild, hat⟩ := hat
          exact ih ((everyTable_branch_iff.1 h).2 child (List.mem_of_getElem? hchild)) hat

/-! ## How far spans reach -/

/-- Rows of cells before anything was merged. -/
def AreFresh (rows : List Row) : Prop :=
  ∀ row ∈ rows, ∀ c ∈ row.cells, c.colspan = 1 ∧ c.rowspan = 1 ∧ c.suppressed = false

theorem Joining.reach_le_length {α : Type} {J : Joining α} {xs : List α}
    (h : ∀ x ∈ xs, J.span x ≤ 1) : J.reach xs ≤ xs.length := by
  induction xs with
  | nil => exact Nat.le_refl 0
  | cons x xs ih =>
      rw [List.forall_mem_cons] at h
      have hrest := ih h.2
      have hfirst := h.1
      rw [reach, List.length_cons]
      split
      · omega
      · omega

variable {rows : List Row}

theorem AreFresh.of_cellAt? (h : AreFresh rows) {r i : Nat} {c : Cell}
    (hc : cellAt? rows r i = some c) : c.colspan = 1 ∧ c.rowspan = 1 ∧ c.suppressed = false := by
  obtain ⟨row, hrow, hmem⟩ := exists_row_of_cellAt? hc
  exact h row hrow c hmem

theorem add_rowspanOf_le (h : AreFresh rows) {r : Nat} (hr : r < rows.length) (i : Nat) :
    r + rowspanOf rows r i ≤ rows.length := by
  have hlength : (column i (rows.map Row.joined)).length = rows.length := by
    rw [column, List.length_map, List.length_map]
  have hspan : ∀ x ∈ (column i (rows.map Row.joined)).drop r, upward.span x ≤ 1 := by
    intro x hx
    obtain ⟨q, hq⟩ := List.mem_iff_getElem?.1 (List.mem_of_mem_drop hx)
    have hlt : q < (rows.map Row.joined).length := by
      have := (List.getElem?_eq_some_iff.1 hq).1
      rwa [column, List.length_map] at this
    rw [column_getElem? hlt, cellAt?_joined, Option.some.injEq] at hq
    rw [← hq]
    cases hc : cellAt? rows q i with
    | none => exact Nat.zero_le 1
    | some c => exact Nat.le_of_eq (h.of_cellAt? hc).2.1
  have hreach := Joining.reach_le_length hspan
  rw [List.length_drop, hlength] at hreach
  rw [rowspanOf]
  omega

theorem runs_of_areFresh (h : AreFresh rows) (r : Nat) :
    Runs (rowCells rows r).length (fromLeft rows r) (colspanOf rows r) := by
  refine runs_of_chain leftward fun c hc => ?_
  obtain ⟨i, hi⟩ := List.mem_iff_getElem?.1 hc
  exact (h.of_cellAt? (r := r) (i := i) hi).1

/-- A span reaches behind some columns exactly if every place up to there is
merged to the left. -/
theorem lt_add_colspanOf_iff (h : AreFresh rows) {columns r i : Nat}
    (hlength : i < (rowCells rows r).length) :
    columns < i + colspanOf rows r i ↔
      ∀ j, i < j → j ≤ columns → mergesLeft rows r j = true := by
  have hruns := runs_of_areFresh h r
  constructor
  · intro hlt j hij hj
    rw [← fromLeft_eq]
    exact hruns.absorbed_of_lt hlength hij (by omega)
  · intro hmarks
    refine Nat.lt_of_not_le fun hle => ?_
    have hpos := hruns.span_pos hlength
    have hend := hruns.absorbed_end hlength
    rw [fromLeft_eq, hmarks _ (by omega) hle] at hend
    cases hend

/-- A cell of some rows that is set in a number of columns. -/
def Emits (rows : List Row) (columns r i : Nat) (c : Cell) : Prop :=
  i < columns ∧ cellAt? rows r i = some c ∧ c.suppressed = false

/-- Whether the cell at a place gathers a mark from behind the last column: it is
merged neither to the left nor upwards, and all places from there to behind the
last column have marks. -/
structure Overruns (rows : List Row) (columns r i : Nat) : Prop where
  inside : i < columns
  starts : i = 0 ∨ markAt '<' rows r i = false
  stays : mergesUp rows r i = false
  marks : ∀ j, i < j → j ≤ columns → markAt '<' rows r j = true

theorem emits_withContent_iff {f : List Node → List Node} {columns r i : Nat} {c : Cell} :
    Emits (rows.map (Row.withContent f)) columns r i c ↔
      ∃ c₀, Emits rows columns r i c₀ ∧ c₀.withContent f = c := by
  rw [Emits, cellAt?_withContent, Option.map_eq_some_iff]
  constructor
  · rintro ⟨hi, ⟨c₀, hc₀, rfl⟩, hset⟩
    exact ⟨c₀, ⟨hi, hc₀, hset⟩, rfl⟩
  · rintro ⟨c₀, ⟨hi, hc₀, hset⟩, rfl⟩
    exact ⟨hi, ⟨c₀, hc₀, rfl⟩, hset⟩

theorem mergesLeft_of_fresh (h : AreFresh rows) (r i : Nat) :
    mergesLeft rows r (i + 1) = markAt '<' rows r (i + 1) := by
  have hflag : suppressedAt rows r i = false := by
    rw [suppressedAt]
    cases hc : cellAt? rows r i with
    | none => rfl
    | some c => exact (h.of_cellAt? hc).2.2
  rw [mergesLeft, hflag, Bool.not_false, Bool.and_true]

theorem mergesLeft_eq_false_iff (h : AreFresh rows) (r i : Nat) :
    mergesLeft rows r i = false ↔ i = 0 ∨ markAt '<' rows r i = false := by
  cases i with
  | zero => exact iff_of_true rfl (.inl rfl)
  | succ i => simp [mergesLeft_of_fresh h]

theorem cellAt?_merged_of_fresh (h : AreFresh rows) {r i : Nat} {c : Cell}
    (hc : cellAt? rows r i = some c) :
    cellAt? (joinRows (rows.map Row.joined)) r i = some { c with
      colspan := colspanOf rows r i
      rowspan := rowspanOf rows r i
      suppressed := mergesLeft rows r i || mergesUp rows r i } := by
  rw [cellAt?_merged (lt_length_of_cellAt? hc), hc, fromLeft_eq, fromAbove_eq_mergesUp,
    Option.map_some, (h.of_cellAt? hc).2.2, Bool.false_or]

theorem exists_of_cellAt?_merged {r i : Nat} {c : Cell}
    (h : cellAt? (joinRows (rows.map Row.joined)) r i = some c) :
    ∃ c₀, cellAt? rows r i = some c₀ := by
  rw [(mergedRows_joinRows rows).cells, Option.map_eq_some_iff] at h
  obtain ⟨c₀, hc₀, -⟩ := h
  exact ⟨c₀, hc₀⟩

/-- Cells that are set after merging fit into the rows. -/
theorem rowspan_fits (h : AreFresh rows) {columns r i : Nat} {c : Cell}
    (hc : Emits (joinRows (rows.map Row.joined)) columns r i c) : r + c.rowspan ≤ rows.length := by
  obtain ⟨-, hcell, -⟩ := hc
  obtain ⟨c₀, hc₀⟩ := exists_of_cellAt?_merged hcell
  rw [cellAt?_merged_of_fresh h hc₀, Option.some.injEq] at hcell
  rw [← hcell]
  exact add_rowspanOf_le h (lt_length_of_cellAt? hc₀) i

theorem lt_length_rowCells {r i : Nat} {c : Cell} (h : cellAt? rows r i = some c) :
    i < (rowCells rows r).length :=
  (List.getElem?_eq_some_iff.1 h).1

/-- They fit into the columns exactly if no run of marks goes on behind them. -/
theorem colspans_fit_iff (h : AreFresh rows) (columns : Nat) :
    (∀ r i c, Emits (joinRows (rows.map Row.joined)) columns r i c → i + c.colspan ≤ columns) ↔
      ∀ r i, ¬ Overruns rows columns r i := by
  constructor
  · intro hfit r i hover
    obtain ⟨last, hlast⟩ := exists_cell_of_markAt (hover.marks columns hover.inside le_rfl)
    have hlength := lt_length_rowCells hlast
    have hi : i < (rowCells rows r).length := Nat.lt_trans hover.inside hlength
    obtain ⟨c₀, hc₀⟩ : ∃ c₀, cellAt? rows r i = some c₀ := ⟨_, List.getElem?_eq_getElem hi⟩
    have hcell := cellAt?_merged_of_fresh h hc₀
    rw [(mergesLeft_eq_false_iff h r i).2 hover.starts, hover.stays] at hcell
    have hspan := hfit r i _ ⟨hover.inside, hcell, rfl⟩
    have hlong := (lt_add_colspanOf_iff h hi).2 fun j hij hj => by
      obtain ⟨j, rfl⟩ : ∃ j', j = j' + 1 := ⟨j - 1, by omega⟩
      rw [mergesLeft_of_fresh h]
      exact hover.marks _ hij hj
    exact absurd hlong (Nat.not_lt.2 hspan)
  · rintro hnone r i c ⟨hi, hcell, hset⟩
    refine Nat.le_of_not_lt fun hlong => hnone r i ?_
    obtain ⟨c₀, hc₀⟩ := exists_of_cellAt?_merged hcell
    rw [cellAt?_merged_of_fresh h hc₀, Option.some.injEq] at hcell
    rw [← hcell] at hset hlong
    obtain ⟨hleft, habove⟩ := Bool.or_eq_false_iff.1 hset
    have hmarks := (lt_add_colspanOf_iff h (lt_length_rowCells hc₀)).1 hlong
    refine ⟨hi, (mergesLeft_eq_false_iff h r i).1 hleft, habove, fun j hij hj => ?_⟩
    obtain ⟨j, rfl⟩ : ∃ j', j = j' + 1 := ⟨j - 1, by omega⟩
    rw [← mergesLeft_of_fresh h]
    exact hmarks _ hij hj

end TableSpans

namespace Typst

open TableSpans

/-! ## The table that is set -/

/-- What is set of a row in a column. -/
def setAt (s : Setting) (cells : List Cell) (i : Nat) : List Fragment :=
  match cells[i]? with
  | none => [.source "table.cell()[], "]
  | some c =>
    if c.suppressed then []
    else cellOpening c.colspan c.rowspan ++ fragmentsAll s c.content ++ [.source "], "]

theorem cellFragments_node (s : Setting) (columns : Nat) (cells : List Cell) :
    cellFragments s columns (cells.map Cell.node) =
      (List.range columns).flatMap (setAt s cells) := by
  induction columns generalizing cells with
  | zero => rw [cellFragments]; rfl
  | succ columns ih =>
      cases cells with
      | nil =>
          have hpadding : setAt s [] = fun _ => [.source "table.cell()[], "] := rfl
          rw [List.map_nil, cellFragments, hpadding, ← List.map_eq_flatMap, List.map_const',
            List.length_range]
      | cons c cells =>
          rw [List.map_cons, Cell.node, cellFragments, ih, List.range_succ_eq_map,
            List.flatMap_cons, List.flatMap_map]
          rfl

theorem rowFragments_node (s : Setting) (columns : Nat) (rows : List Row) :
    rowFragments s columns (rows.map Row.node) =
      rows.flatMap fun row =>
        (List.range columns).flatMap (setAt s row.cells) ++ [.source "\n"] := by
  induction rows with
  | nil => rw [List.map_nil, rowFragments]; rfl
  | cons row rows ih =>
      rw [List.map_cons, Row.node, rowFragments, cellFragments_node, ih, List.flatMap_cons,
        List.append_assoc]
      rfl

theorem length_of_columnAlignments {alignments : List (Option String)} {words : List String}
    (h : columnAlignments alignments = .ok words) : words.length = alignments.length := by
  induction alignments generalizing words with
  | nil =>
      cases h
      rfl
  | cons alignment alignments ih =>
      have hword : ∀ word : String,
          (columnAlignments alignments).map (word :: ·) = .ok words →
            words.length = (alignment :: alignments).length := by
        intro word hword
        cases hrest : columnAlignments alignments with
        | error unknown =>
            rw [hrest] at hword
            cases hword
        | ok rest =>
            rw [hrest] at hword
            cases hword
            rw [List.length_cons, List.length_cons, ih hrest]
      unfold columnAlignments at h
      split at h
      · exact hword _ h
      · exact hword _ h
      · exact hword _ h
      · exact hword _ h
      · cases h

/-- A table with known alignments is set in rows, and each of them column by
column. -/
theorem fragments_table (s : Setting) {headed : Bool} {alignments : List (Option String)}
    {rows : List Row} {m : Metadata} (hrows : rows ≠ [])
    (h : alignments.all isAlignment = true) :
    ∃ words, words.length = columnCount alignments (rows.map Row.node) ∧
      fragments s (.branch (.table headed alignments) (rows.map Row.node) m) =
        tableOpening words ++
          (rows.flatMap fun row =>
            (List.range (columnCount alignments (rows.map Row.node))).flatMap
              (setAt s row.cells) ++ [.source "\n"]) ++ [.source "))\n"] := by
  obtain ⟨row, rest, rfl⟩ := List.exists_cons_of_ne_nil hrows
  have hknown : unknownAlignment? alignments = none := by
    refine List.findSome?_eq_none_iff.2 fun alignment halignment => ?_
    rw [if_pos (List.all_eq_true.1 h alignment halignment)]
  obtain ⟨columns, words, hcolumns, hwords⟩ :=
    tableColumns_of_known (rfl : row.node.kind.isRow = true) hknown (rest.map Row.node)
  have hlength := length_of_tableColumns hcolumns
  refine ⟨words, (length_of_columnAlignments hwords).trans hlength, ?_⟩
  rw [List.map_cons, fragments]
  simp only [hcolumns, hwords]
  rw [hlength, ← List.map_cons, rowFragments_node]

theorem columnCount_of_frames {rows after : List Row}
    (h : after.map Row.frame = rows.map Row.frame) (alignments : List (Option String)) :
    columnCount alignments (after.map Row.node) = columnCount alignments (rows.map Row.node) := by
  have hfirst : ∀ rows : List Row, ((rows.map Row.node).head?.map fun row => row.children.length) =
      (rows.map Row.frame).head?.map fun frame => frame.2.1 := fun rows => by
    cases rows with
    | nil => rfl
    | cons row rows => simp [Row.node, Row.frame, Node.children]
  rw [columnCount, columnCount, hfirst, hfirst, h]

/-- Spans in a table of a document, set after merging. The table has the rows
that it had before and the columns that its alignments or its first row tell, and
the cells that are set in it fit into its rows. They fit into its columns exactly
if in no row a run of marks goes on behind the last column, so they do if no row
is longer than that. -/
theorem emitted_spans_fit_iff {document : Node} (hdocument : document.isDocument = true)
    (hgrid : EveryTable IsGrid document) {place : List Nat} {headed : Bool}
    {alignments : List (Option String)} {rows : List Row} {m : Metadata}
    (hat : document.at? place = some (.branch (.table headed alignments) (rows.map Row.node) m))
    (hfresh : AreFresh rows) (hknown : alignments.all isAlignment = true) {columns : Nat}
    (hcolumns : columns = columnCount alignments (rows.map Row.node)) :
    ∃ after : List Row,
      (Transform.tableSpans.run document).tree.at? place =
          some (.branch (.table headed alignments) (after.map Row.node) m) ∧
        after.length = rows.length ∧
        (rows ≠ [] → ∀ s, ∃ words, words.length = columns ∧
          fragments s (.branch (.table headed alignments) (after.map Row.node) m) =
            tableOpening words ++
              (after.flatMap fun row =>
                (List.range columns).flatMap (setAt s row.cells) ++ [.source "\n"]) ++
              [.source "))\n"]) ∧
        (∀ r i c, Emits after columns r i c → r + c.rowspan ≤ rows.length) ∧
        ((∀ r i c, Emits after columns r i c → i + c.colspan ≤ columns) ↔
          ∀ r i, ¬ Overruns rows columns r i) ∧
        ((∀ row ∈ rows, row.cells.length ≤ columns) →
          ∀ r i c, Emits after columns r i c → i + c.colspan ≤ columns) := by
  have htable := hgrid.at? hat
  have hplace : (Transform.tableSpans.run document).tree.at? place =
      some (merged (.branch (.table headed alignments) (rows.map Row.node) m)) := by
    rw [Transform.tree_run_tableSpans hdocument]
    exact at?_merged hgrid hat
  rw [merged_table htable] at hplace
  -- merging the tables inside cells changes no spans
  have hcolspans : (∀ r i c, Emits ((joinRows (rows.map Row.joined)).map
        (Row.withContent (·.map merged))) columns r i c → i + c.colspan ≤ columns) ↔
      ∀ r i, ¬ Overruns rows columns r i := by
    rw [← colspans_fit_iff hfresh]
    constructor
    · intro hfit r i c hc
      exact hfit r i (c.withContent (·.map merged)) (emits_withContent_iff.2 ⟨c, hc, rfl⟩)
    · intro hfit r i c hc
      obtain ⟨c₀, hc₀, rfl⟩ := emits_withContent_iff.1 hc
      exact hfit r i c₀ hc₀
  refine ⟨_, hplace, ?_, fun hrows s => ?_, ?_, hcolspans, fun hshort => hcolspans.2 ?_⟩
  · rw [List.length_map, length_joinRows, List.length_map]
  · have hframes : ((joinRows (rows.map Row.joined)).map (Row.withContent (·.map merged))).map
        Row.frame = rows.map Row.frame := by
      rw [frame_withContent, (mergedRows_joinRows rows).frames]
    rw [hcolumns, ← columnCount_of_frames hframes]
    refine fragments_table s (fun hnil => hrows ?_) hknown
    rw [hnil] at hframes
    exact List.map_eq_nil_iff.1 hframes.symm
  · intro r i c hc
    obtain ⟨c₀, hc₀, rfl⟩ := emits_withContent_iff.1 hc
    have hfits := rowspan_fits hfresh hc₀
    exact hfits
  · intro r i hover
    obtain ⟨c, hc⟩ := exists_cell_of_markAt (hover.marks columns hover.inside le_rfl)
    have hr := lt_length_of_cellAt? hc
    have hlong := lt_length_rowCells hc
    rw [rowCells, List.getElem?_eq_getElem hr] at hlong
    exact absurd (hshort _ (List.getElem_mem hr)) (Nat.not_le.2 hlong)

/-- A row of a cell and a mark. -/
def markedRows : List Row :=
  [{ isHeader := false
     cells := [⟨1, 1, false, none, [.ofText "a"], []⟩, ⟨1, 1, false, none, [.ofText "<"], []⟩]
     metadata := [] }]

/-- A table with such a row. -/
def markedTable (alignments : List (Option String)) : Node :=
  .ofBranch .document [.ofBranch (.table false alignments) (markedRows.map Row.node)]

theorem everyTable_markedTable (alignments : List (Option String)) :
    EveryTable IsGrid (markedTable alignments) := by
  have hgrid : IsGrid (markedRows.map Row.node) := ⟨markedRows, rfl⟩
  simpa [markedTable, markedRows, ofBranch, ofText, ofLeaf, everyTable_branch_iff, everyTable_leaf,
    Row.node, Cell.node] using hgrid

theorem areFresh_markedRows : AreFresh markedRows := by
  simp [AreFresh, markedRows]

/-- In two columns the merged cell fits. -/
theorem emitted_spans_fit_of_two_columns :
    ∃ after : List Row,
      (Transform.tableSpans.run (markedTable [none, none])).tree.at? [0] =
          some (.ofBranch (.table false [none, none]) (after.map Row.node)) ∧
        ∀ r i c, Emits after 2 r i c → i + c.colspan ≤ 2 ∧ r + c.rowspan ≤ 1 := by
  have hat : (markedTable [none, none]).at? [0] =
      some (.branch (.table false [none, none]) (markedRows.map Row.node) []) := rfl
  have hcolumns : 2 = columnCount [none, none] (markedRows.map Row.node) := rfl
  obtain ⟨after, hplace, -, -, hrowspans, -, hcolspans⟩ :=
    emitted_spans_fit_iff rfl (everyTable_markedTable _) hat areFresh_markedRows (by decide)
      hcolumns
  have hshort : ∀ row ∈ markedRows, row.cells.length ≤ 2 := by simp [markedRows]
  exact ⟨after, hplace, fun r i c hc => ⟨hcolspans hshort r i c hc, hrowspans r i c hc⟩⟩

/-- In one column it does not: the mark is left out, but the cell has taken in its
span before. -/
theorem emitted_colspan_overruns :
    ¬ ∀ (document : Node) (place : List Nat) (headed : Bool) (alignments : List (Option String))
        (rows after : List Row) (m : Metadata),
      document.isDocument = true → EveryTable IsGrid document →
        document.at? place = some (.branch (.table headed alignments) (rows.map Row.node) m) →
        AreFresh rows → alignments.all isAlignment = true →
        (Transform.tableSpans.run document).tree.at? place =
          some (.branch (.table headed alignments) (after.map Row.node) m) →
        ∀ r i c, Emits after (columnCount alignments (rows.map Row.node)) r i c →
          i + c.colspan ≤ columnCount alignments (rows.map Row.node) := by
  intro h
  have hfits := h (markedTable [some "left"]) [0] false [some "left"] markedRows
    (joinRows (markedRows.map Row.joined)) [] rfl (everyTable_markedTable _) rfl
    areFresh_markedRows (by decide) rfl 0 0 _ ⟨by decide, rfl, rfl⟩
  exact absurd hfits (by decide)

end Typst

end TypstPress
