import TypstPress.Transform.TableSpans

/-!
# What merging leaves of a cell

Merging works on neighbours, from the far end: a cell takes in the one behind
it after that one has taken in what stands behind it. `Joining` is the common
form of the two sweeps, the one along rows and the one up columns: which cell
takes in which, and what becomes of the two. That a cell has grown does not
change who takes it in, so the outcome can be told from the cells as they were.
`chain_getElem?` tells it, place by place: a cell grows by the spans of the run
of cells behind it, and it is suppressed if the cell before it takes it in.

On tables of cells the sweeps never fail, and they are chains: along each row
(`mergeColumns_node`), and up each column on its own although the sweep goes
row by row (`column_joinRows`).
-/

namespace TypstPress.TableSpans

/-- How neighbours are joined. -/
structure Joining (α : Type) where
  /-- Whether the first takes in the second. -/
  joins : α → α → Bool
  span : α → Nat
  grow : Nat → α → α
  suppress : α → α
  joins_grow : ∀ x y k, joins x (grow k y) = joins x y
  span_grow : ∀ x y k, joins x y = true → span (grow k x) = span x + k

namespace Joining

variable {α : Type} (J : Joining α)

/-- Two neighbours after the first has taken in the second, if it does. -/
def pair (x y : α) : α × α :=
  if J.joins x y then (J.grow (J.span y) x, J.suppress y) else (x, y)

/-- A row of neighbours, joined from the far end. -/
def chain : List α → List α
  | [] => []
  | x :: xs =>
    match chain xs with
    | [] => [x]
    | y :: ys => (J.pair x y).1 :: (J.pair x y).2 :: ys

/-- Whether the neighbour before a place takes in what stands there. -/
def absorbed (xs : List α) : Nat → Bool
  | 0 => false
  | i + 1 =>
    match xs[i]?, xs[i + 1]? with
    | some x, some y => J.joins x y
    | _, _ => false

/-- The span of the first with all that it takes in. -/
def reach : List α → Nat
  | [] => 0
  | x :: xs => J.span x + if J.absorbed (x :: xs) 1 then reach xs else 0

/-- What stands at a place after it has taken in what is behind it. -/
def grown (xs : List α) (i : Nat) (x : α) : α :=
  if J.absorbed xs (i + 1) then J.grow (J.reach (xs.drop (i + 1))) x else x

/-- What becomes of what stands at a place. -/
def settled (xs : List α) (i : Nat) (x : α) : α :=
  if J.absorbed xs i then J.suppress (J.grown xs i x) else J.grown xs i x

variable {J}

theorem absorbed_cons {x : α} {xs : List α} {i : Nat} :
    J.absorbed (x :: xs) (i + 2) = J.absorbed xs (i + 1) := by
  rw [absorbed, absorbed, List.getElem?_cons_succ, List.getElem?_cons_succ]

theorem grown_cons {x : α} {xs : List α} {i : Nat} {y : α} :
    J.grown (x :: xs) (i + 1) y = J.grown xs i y := by
  rw [grown, grown, absorbed_cons, List.drop_succ_cons]

theorem settled_cons {x : α} {xs : List α} {i : Nat} {y : α} :
    J.settled (x :: xs) (i + 2) y = J.settled xs (i + 1) y := by
  rw [settled, settled, absorbed_cons, grown_cons]

theorem joins_grown {x y : α} {xs : List α} {i : Nat} :
    J.joins x (J.grown xs i y) = J.joins x y := by
  rw [grown]
  split
  · exact J.joins_grow x y _
  · rfl

theorem span_grown {x : α} {xs : List α} :
    J.span (J.grown (x :: xs) 0 x) = J.reach (x :: xs) := by
  rw [grown, reach, Nat.zero_add, List.drop_one, List.tail_cons]
  by_cases h : J.absorbed (x :: xs) 1 = true
  · rw [if_pos h, if_pos h]
    cases xs with
    | nil => cases h
    | cons y ys => exact J.span_grow x y _ h
  · rw [if_neg h, if_neg h]
    rfl

/-- What merging leaves, place by place. -/
theorem chain_getElem? (xs : List α) (i : Nat) :
    (J.chain xs)[i]? = xs[i]?.map (J.settled xs i) := by
  induction xs generalizing i with
  | nil => rfl
  | cons x xs ih =>
      cases xs with
      | nil =>
          cases i with
          | zero => rfl
          | succ i => rfl
      | cons y ys =>
          have hfirst : (J.chain (y :: ys))[0]? = some (J.grown (y :: ys) 0 y) := ih 0
          cases hchain : J.chain (y :: ys) with
          | nil =>
              rw [hchain] at hfirst
              cases hfirst
          | cons y' ys' =>
              rw [hchain] at hfirst ih
              obtain rfl : y' = J.grown (y :: ys) 0 y := by injection hfirst
              have habsorbed : J.absorbed (x :: y :: ys) 1 = J.joins x y := rfl
              rw [chain, hchain]
              -- only the first two places are touched once the rest has been joined
              match i with
              | 0 =>
                  refine congrArg some ?_
                  rw [pair, joins_grown, span_grown]
                  show _ = if J.joins x y then J.grow (J.reach (y :: ys)) x else x
                  split
                  · rfl
                  · rfl
              | 1 =>
                  refine congrArg some ?_
                  rw [pair, joins_grown, settled, habsorbed, grown_cons]
                  split
                  · rfl
                  · rfl
              | i + 2 =>
                  rw [List.getElem?_cons_succ, List.getElem?_cons_succ,
                    List.getElem?_cons_succ]
                  rw [← List.getElem?_cons_succ (a := J.grown (y :: ys) 0 y), ih (i + 1)]
                  refine Option.map_congr fun z _ => ?_
                  rw [settled_cons]

theorem absorbed_of_length_le {xs : List α} {i : Nat} (h : xs.length ≤ i) :
    J.absorbed xs i = false := by
  cases i with
  | zero => rfl
  | succ i =>
      rw [absorbed, List.getElem?_eq_none h]
      split
      · next heq => cases heq
      · rfl

theorem joins_of_absorbed {xs : List α} {i : Nat} (h : J.absorbed xs (i + 1) = true) :
    ∃ x y, xs[i]? = some x ∧ xs[i + 1]? = some y ∧ J.joins x y = true := by
  rw [absorbed] at h
  split at h
  · next x y hx hy => exact ⟨x, y, hx, hy, h⟩
  · cases h

theorem reach_drop {xs : List α} {i : Nat} {x : α} (h : xs[i]? = some x) :
    J.reach (xs.drop i) =
      J.span x + if J.absorbed xs (i + 1) then J.reach (xs.drop (i + 1)) else 0 := by
  induction xs generalizing i with
  | nil => cases h
  | cons y xs ih =>
      cases i with
      | zero =>
          injection h with h
          rw [List.drop_zero, reach, h]
          rfl
      | succ i => rw [List.drop_succ_cons, List.drop_succ_cons, ih h, absorbed_cons]

end Joining

/-! ## Tables of cells -/

/-- A table cell. -/
structure Cell where
  colspan : Nat
  rowspan : Nat
  suppressed : Bool
  alignment : Option String
  content : List Node
  metadata : Metadata

/-- A table row with nothing but cells. -/
structure Row where
  isHeader : Bool
  cells : List Cell
  metadata : Metadata

namespace Cell

def node (c : Cell) : Node :=
  .branch (.tableCell c.colspan c.rowspan c.suppressed c.alignment) c.content c.metadata

/-- Whether the cell takes in the one on its right. -/
def joinsRight (c d : Cell) : Bool := startsWithMark '<' d.content && !c.suppressed

/-- Whether the cell takes in the one below. -/
def joinsBelow (c d : Cell) : Bool :=
  startsWithMark '^' d.content && !d.suppressed && !c.suppressed

def widen (k : Nat) (c : Cell) : Cell := { c with colspan := c.colspan + k }

def heighten (k : Nat) (c : Cell) : Cell := { c with rowspan := c.rowspan + k }

def suppress (c : Cell) : Cell := { c with suppressed := true }

end Cell

def Row.node (row : Row) : Node :=
  .branch (.tableRow row.isHeader) (row.cells.map Cell.node) row.metadata

/-- The joining of cells along a row. -/
def leftward : Joining Cell where
  joins := Cell.joinsRight
  span := Cell.colspan
  grow := Cell.widen
  suppress := Cell.suppress
  joins_grow _ _ _ := rfl
  span_grow _ _ _ _ := rfl

/-- The joining of cells up a column, in which some rows may have no cell. -/
def upward : Joining (Option Cell) where
  joins
    | some c, some d => c.joinsBelow d
    | _, _ => false
  span c := c.elim 0 Cell.rowspan
  grow k := Option.map (Cell.heighten k)
  suppress := Option.map Cell.suppress
  joins_grow x y k := by
    cases x with
    | none => rfl
    | some c =>
        cases y with
        | none => rfl
        | some d => rfl
  span_grow x y k h := by
    cases x with
    | none => cases h
    | some c => rfl

theorem mergeLeft_node (c d : Cell) :
    mergeLeft c.node d.node =
      .ok ((leftward.pair c d).1.node, (leftward.pair c d).2.node, leftward.joins c d) := by
  have hmark : isMark '<' d.node = .ok (startsWithMark '<' d.content) := rfl
  have hjoins : leftward.joins c d = (startsWithMark '<' d.content && !c.suppressed) := rfl
  obtain ⟨colspan, rowspan, suppressed, alignment, content, metadata⟩ := c
  unfold mergeLeft
  rw [Joining.pair, hmark, hjoins]
  cases startsWithMark '<' d.content with
  | false => rfl
  | true =>
      cases suppressed with
      | false => rfl
      | true => rfl

/-- Merging along a row of cells is a chain and never fails. -/
theorem mergeRow_node (cells : List Cell) :
    (mergeRow (cells.map Cell.node)).value = (leftward.chain cells).map Cell.node ∧
      (mergeRow (cells.map Cell.node)).failure = none := by
  induction cells with
  | nil => exact ⟨rfl, rfl⟩
  | cons c cells ih =>
      rw [List.map_cons, mergeRow, Joining.chain]
      simp only [ih.1, ih.2]
      cases leftward.chain cells with
      | nil => exact ⟨rfl, rfl⟩
      | cons d ds =>
          simp only [List.map_cons, mergeLeft_node, and_self]

/-- A row after merging along it. -/
def Row.joined (row : Row) : Row := { row with cells := leftward.chain row.cells }

/-- Merging along the rows of a table of cells is a chain in every row. -/
theorem mergeColumns_node (rows : List Row) :
    (mergeColumns (rows.map Row.node)).value = (rows.map Row.joined).map Row.node ∧
      (mergeColumns (rows.map Row.node)).failure = none := by
  induction rows with
  | nil => exact ⟨rfl, rfl⟩
  | cons row rows ih =>
      obtain ⟨hvalue, hfailure⟩ := mergeRow_node row.cells
      have hcells : rowCells? row.node = some (row.cells.map Cell.node) := rfl
      rw [List.map_cons, mergeColumns, hcells]
      simp only [hvalue, hfailure, ih.1, ih.2, List.map_cons, and_true]
      rfl

/-! ## Up the columns -/

/-- Two rows after the upper one has taken in what it does of the lower one. -/
def joinUp : List Cell → List Cell → List Cell × List Cell
  | above, [] => (above, [])
  | [], cells => ([], cells)
  | a :: above, c :: cells =>
    let rest := joinUp above cells
    if a.joinsBelow c then
      (a.heighten c.rowspan :: rest.1, c.suppress :: rest.2)
    else (a :: rest.1, c :: rest.2)

theorem pair_some (a c : Cell) :
    upward.pair (some a) (some c) =
      if a.joinsBelow c then (some (a.heighten c.rowspan), some c.suppress)
      else (some a, some c) :=
  rfl

theorem pair_none_left (y : Option Cell) : upward.pair none y = (none, y) := by
  cases y with
  | none => rfl
  | some c => rfl

theorem pair_none_right (x : Option Cell) : upward.pair x none = (x, none) := by
  cases x with
  | none => rfl
  | some c => rfl

theorem joinUp_getElem? (above cells : List Cell) (i : Nat) :
    ((joinUp above cells).1[i]?, (joinUp above cells).2[i]?) =
      upward.pair above[i]? cells[i]? := by
  induction above generalizing cells i with
  | nil =>
      cases cells with
      | nil => rfl
      | cons c cells =>
          rw [List.getElem?_nil, pair_none_left]
          rfl
  | cons a above ih =>
      cases cells with
      | nil =>
          rw [List.getElem?_nil, pair_none_right]
          rfl
      | cons c cells =>
          rw [joinUp]
          cases i with
          | zero =>
              rw [List.getElem?_cons_zero, List.getElem?_cons_zero, pair_some]
              split
              · rfl
              · rfl
          | succ i =>
              rw [List.getElem?_cons_succ, List.getElem?_cons_succ, ← ih cells i]
              split
              · rfl
              · rfl

theorem mergeUp_none (c : Cell) : mergeUp none c.node = .ok (none, c.node, false) := by
  obtain ⟨colspan, rowspan, suppressed, alignment, content, metadata⟩ := c
  simp only [mergeUp, Cell.node]
  split
  · rfl
  · rfl

theorem mergeUp_node (a c : Cell) :
    mergeUp (some a.node) c.node =
      .ok (some (if a.joinsBelow c then a.heighten c.rowspan else a).node,
        (if a.joinsBelow c then c.suppress else c).node, a.joinsBelow c) := by
  have hjoins : a.joinsBelow c =
      (startsWithMark '^' c.content && !c.suppressed && !a.suppressed) := rfl
  obtain ⟨colspan, rowspan, suppressed, alignment, content, metadata⟩ := a
  obtain ⟨colspan', rowspan', suppressed', alignment', content', metadata'⟩ := c
  rw [hjoins]
  simp only [mergeUp, Cell.node]
  cases startsWithMark '^' content' with
  | false => cases suppressed' <;> rfl
  | true => cases suppressed' <;> cases suppressed <;> rfl

theorem mergeRowUp_node (above cells : List Cell) :
    (mergeRowUp (above.map Cell.node) (cells.map Cell.node)).value =
        ((joinUp above cells).1.map Cell.node, (joinUp above cells).2.map Cell.node) ∧
      (mergeRowUp (above.map Cell.node) (cells.map Cell.node)).failure = none := by
  induction cells generalizing above with
  | nil =>
      cases above with
      | nil => exact ⟨rfl, rfl⟩
      | cons a above => exact ⟨rfl, rfl⟩
  | cons c cells ih =>
      cases above with
      | nil =>
          have ihrest := ih []
          rw [List.map_nil] at ihrest
          rw [List.map_nil, List.map_cons, mergeRowUp, List.head?_nil, mergeUp_none]
          simp only [List.tail_nil, ihrest.1, ihrest.2, and_true]
          cases cells with
          | nil => rfl
          | cons d cells => rfl
      | cons a above =>
          rw [List.map_cons, List.map_cons, mergeRowUp, List.head?_cons, mergeUp_node, joinUp]
          simp only [List.tail_cons, (ih above).1, (ih above).2, and_true]
          split
          · rfl
          · rfl

/-- The rows of a table after merging up its columns. -/
def joinRows : List Row → List Row
  | [] => []
  | row :: rows =>
    match joinRows rows with
    | [] => [row]
    | below :: others =>
      { row with cells := (joinUp row.cells below.cells).1 } ::
        { below with cells := (joinUp row.cells below.cells).2 } :: others

/-- Merging up the columns of a table of cells joins its rows and never fails. -/
theorem mergeRows_node (rows : List Row) :
    (mergeRows (rows.map Row.node)).value = (joinRows rows).map Row.node ∧
      (mergeRows (rows.map Row.node)).failure = none := by
  induction rows with
  | nil => exact ⟨rfl, rfl⟩
  | cons row rows ih =>
      rw [List.map_cons, mergeRows, joinRows]
      simp only [ih.1, ih.2]
      cases joinRows rows with
      | nil => exact ⟨rfl, rfl⟩
      | cons below others =>
          obtain ⟨hvalue, hfailure⟩ := mergeRowUp_node row.cells below.cells
          have hcells : ∀ row : Row, rowCells? row.node = some (row.cells.map Cell.node) :=
            fun _ => rfl
          simp only [List.map_cons, hcells, hvalue, hfailure, and_true]
          rfl

/-- The cells at one place of all rows. -/
def column (i : Nat) (rows : List Row) : List (Option Cell) := rows.map fun row => row.cells[i]?

/-- Each column is a chain of its own. -/
theorem column_joinRows (i : Nat) (rows : List Row) :
    column i (joinRows rows) = upward.chain (column i rows) := by
  induction rows with
  | nil => rfl
  | cons row rows ih =>
      rw [show column i (row :: rows) = row.cells[i]? :: column i rows from rfl,
        Joining.chain, ← ih, joinRows]
      cases joinRows rows with
      | nil => rfl
      | cons below others =>
          have hpair := joinUp_getElem? row.cells below.cells i
          simp only [column, List.map_cons, ← hpair]

/-! ## The cells of a merged table -/

/-- The cells of a row by its number. -/
def rowCells (rows : List Row) (r : Nat) : List Cell := (rows[r]?.map Row.cells).getD []

/-- Whether merging along the rows takes a cell in. -/
def fromLeft (rows : List Row) (r i : Nat) : Bool := leftward.absorbed (rowCells rows r) i

/-- The span of a cell after merging along the rows. -/
def colspanOf (rows : List Row) (r i : Nat) : Nat := leftward.reach ((rowCells rows r).drop i)

/-- Whether merging up the columns takes a cell in. -/
def fromAbove (rows : List Row) (r i : Nat) : Bool :=
  upward.absorbed (column i (rows.map Row.joined)) r

/-- The span of a cell after merging up the columns. -/
def rowspanOf (rows : List Row) (r i : Nat) : Nat :=
  upward.reach ((column i (rows.map Row.joined)).drop r)

theorem settled_leftward {cells : List Cell} {i : Nat} {c : Cell} (h : cells[i]? = some c) :
    leftward.settled cells i c =
      { c with
        colspan := leftward.reach (cells.drop i)
        suppressed := c.suppressed || leftward.absorbed cells i } := by
  rw [Joining.reach_drop h, Joining.settled, Joining.grown]
  cases leftward.absorbed cells i with
  | false =>
      rw [Bool.or_false]
      cases leftward.absorbed cells (i + 1) with
      | false => rfl
      | true => rfl
  | true =>
      rw [Bool.or_true]
      cases leftward.absorbed cells (i + 1) with
      | false => rfl
      | true => rfl

theorem settled_upward {cells : List (Option Cell)} {r : Nat} {c : Cell}
    (h : cells[r]? = some (some c)) :
    upward.settled cells r (some c) =
      some { c with
        rowspan := upward.reach (cells.drop r)
        suppressed := c.suppressed || upward.absorbed cells r } := by
  rw [Joining.reach_drop h, Joining.settled, Joining.grown]
  cases upward.absorbed cells r with
  | false =>
      rw [Bool.or_false]
      cases upward.absorbed cells (r + 1) with
      | false => rfl
      | true => rfl
  | true =>
      rw [Bool.or_true]
      cases upward.absorbed cells (r + 1) with
      | false => rfl
      | true => rfl

theorem settled_none (cells : List (Option Cell)) (r : Nat) :
    upward.settled cells r none = none := by
  have hgrown : upward.grown cells r none = none := by
    rw [Joining.grown]
    split
    · rfl
    · rfl
  rw [Joining.settled, hgrown]
  split
  · rfl
  · rfl

/-- The cell at a place of some rows. -/
def cellAt? (rows : List Row) (r i : Nat) : Option Cell := (rowCells rows r)[i]?

theorem column_getElem? {rows : List Row} {r : Nat} (hr : r < rows.length) (i : Nat) :
    (column i rows)[r]? = some (cellAt? rows r i) := by
  rw [column, cellAt?, rowCells, List.getElem?_map, List.getElem?_eq_getElem hr]
  rfl

theorem rowCells_joined (rows : List Row) (r : Nat) :
    rowCells (rows.map Row.joined) r = leftward.chain (rowCells rows r) := by
  rw [rowCells, rowCells, List.getElem?_map]
  cases rows[r]? with
  | none => rfl
  | some row => rfl

theorem cellAt?_joined (rows : List Row) (r i : Nat) :
    cellAt? (rows.map Row.joined) r i =
      (cellAt? rows r i).map fun c =>
        { c with
          colspan := colspanOf rows r i
          suppressed := c.suppressed || fromLeft rows r i } := by
  rw [cellAt?, rowCells_joined, Joining.chain_getElem?, cellAt?]
  exact Option.map_congr fun c hc => settled_leftward hc

theorem length_joinRows (rows : List Row) : (joinRows rows).length = rows.length := by
  induction rows with
  | nil => rfl
  | cons row rows ih =>
      rw [joinRows, List.length_cons, ← ih]
      cases joinRows rows with
      | nil => rfl
      | cons below others => rfl

/-- A cell after merging along the rows and up the columns. -/
theorem cellAt?_merged {rows : List Row} {r : Nat} (hr : r < rows.length) (i : Nat) :
    cellAt? (joinRows (rows.map Row.joined)) r i =
      (cellAt? rows r i).map fun c =>
        { c with
          colspan := colspanOf rows r i
          rowspan := rowspanOf rows r i
          suppressed := c.suppressed || fromLeft rows r i || fromAbove rows r i } := by
  have hjoined : r < (rows.map Row.joined).length := by rw [List.length_map]; exact hr
  have hmerged : r < (joinRows (rows.map Row.joined)).length := by
    rw [length_joinRows]
    exact hjoined
  have hcolumn := column_getElem? hmerged i
  rw [column_joinRows, Joining.chain_getElem?, column_getElem? hjoined, Option.map_some] at hcolumn
  injection hcolumn with hcolumn
  have hplace := column_getElem? hjoined i
  rw [← hcolumn]
  rw [cellAt?_joined] at hplace ⊢
  cases hc : cellAt? rows r i with
  | none => exact settled_none _ r
  | some c =>
      rw [hc] at hplace
      exact settled_upward hplace

end TypstPress.TableSpans
