import Mathlib.Logic.ExistsUnique
import TypstPress.Proofs.Transform.SpanForm

/-!
# When merged cells tile the table

Merging grows cells to rectangles, and a table can only be set if the
rectangles of the cells that are left cover every place once. They always fit
into the table, but they need not cover it: a stack of cells is as wide as its
top cell, while the cells that it takes in gave up places of their own width.

`Runs` holds the arithmetic of one direction: places of a line that are
absorbed by what is before them, and spans that count the places absorbed in a
row. Every place belongs to the run of exactly one place that is not absorbed.
`Grid` lays such lines across each other, and `Grid.tiles_iff` is the geometry:
the rectangles tile the grid if and only if every cell that a stack takes in is
as wide as the cell above it. If one is narrower, the place behind it is
covered by the stack and by a cell of its own row; if one is wider, the place
that it leaves behind can only be covered by a cell that covers the stack as
well.
-/

namespace TypstPress.TableSpans

/-! ## Runs of absorbed places -/

/-- A line of places, some of which are absorbed by the one before, and their
spans. -/
structure Runs (length : Nat) (absorbed : Nat → Bool) (span : Nat → Nat) : Prop where
  first : absorbed 0 = false
  beyond : ∀ i, length ≤ i → absorbed i = false
  step : ∀ i < length, span i = 1 + if absorbed (i + 1) then span (i + 1) else 0

namespace Runs

variable {length : Nat} {absorbed : Nat → Bool} {span : Nat → Nat}

theorem lt_of_absorbed (h : Runs length absorbed span) {i : Nat} (hi : absorbed i = true) :
    i < length := by
  by_cases hlt : i < length
  · exact hlt
  · rw [h.beyond i (by omega)] at hi
    cases hi

theorem span_of_absorbed (h : Runs length absorbed span) {i : Nat} (hi : i < length)
    (hnext : absorbed (i + 1) = true) : span i = 1 + span (i + 1) := by
  rw [h.step i hi, if_pos hnext]

theorem span_of_not_absorbed (h : Runs length absorbed span) {i : Nat} (hi : i < length)
    (hnext : absorbed (i + 1) = false) : span i = 1 := by
  rw [h.step i hi, hnext]
  rfl

theorem span_pos (h : Runs length absorbed span) {i : Nat} (hi : i < length) : 0 < span i := by
  rw [h.step i hi]
  omega

theorem add_span_le (h : Runs length absorbed span) {i : Nat} (hi : i < length) :
    i + span i ≤ length := by
  cases hnext : absorbed (i + 1) with
  | false =>
      rw [h.span_of_not_absorbed hi hnext]
      omega
  | true =>
      have hrest := h.add_span_le (h.lt_of_absorbed hnext)
      rw [h.span_of_absorbed hi hnext]
      omega
termination_by length - i

/-- All places of a run but the first are absorbed. -/
theorem absorbed_of_lt (h : Runs length absorbed span) {i k : Nat} (hi : i < length)
    (hik : i < k) (hk : k < i + span i) : absorbed k = true := by
  cases hnext : absorbed (i + 1) with
  | false =>
      rw [h.span_of_not_absorbed hi hnext] at hk
      omega
  | true =>
      rw [h.span_of_absorbed hi hnext] at hk
      by_cases heq : k = i + 1
      · rw [heq]
        exact hnext
      · exact h.absorbed_of_lt (h.lt_of_absorbed hnext) (by omega) (by omega)
termination_by length - i

theorem absorbed_end (h : Runs length absorbed span) {i : Nat} (hi : i < length) :
    absorbed (i + span i) = false := by
  cases hnext : absorbed (i + 1) with
  | false =>
      rw [h.span_of_not_absorbed hi hnext]
      exact hnext
  | true =>
      rw [h.span_of_absorbed hi hnext, ← Nat.add_assoc]
      exact h.absorbed_end (h.lt_of_absorbed hnext)
termination_by length - i

/-- Every place belongs to the run of a place that is not absorbed. -/
theorem exists_start (h : Runs length absorbed span) {i : Nat} (hi : i < length) :
    ∃ j ≤ i, absorbed j = false ∧ i < j + span j := by
  induction i with
  | zero => exact ⟨0, Nat.le_refl 0, h.first, by have := h.span_pos hi; omega⟩
  | succ i ih =>
      cases habsorbed : absorbed (i + 1) with
      | false =>
          exact ⟨i + 1, Nat.le_refl _, habsorbed, by have := h.span_pos hi; omega⟩
      | true =>
          obtain ⟨j, hji, hj, hspan⟩ := ih (by omega)
          have hend := h.absorbed_end (i := j) (by omega)
          refine ⟨j, by omega, hj, ?_⟩
          by_cases heq : j + span j = i + 1
          · rw [heq, habsorbed] at hend
            cases hend
          · omega

/-- No place belongs to the runs of two places that are not absorbed. -/
theorem start_unique (h : Runs length absorbed span) {i j j' : Nat} (hi : i < length)
    (hj : absorbed j = false) (hji : j ≤ i) (hspan : i < j + span j)
    (hj' : absorbed j' = false) (hji' : j' ≤ i) (hspan' : i < j' + span j') : j = j' := by
  rcases Nat.lt_trichotomy j j' with hlt | heq | hlt
  · rw [h.absorbed_of_lt (i := j) (by omega) hlt (by omega)] at hj'
    cases hj'
  · exact heq
  · rw [h.absorbed_of_lt (i := j') (by omega) hlt (by omega)] at hj
    cases hj

end Runs

/-! ## Rectangles on a grid -/

/-- A grid of places that are absorbed by what is on their left or above them,
with the spans in both directions. What a stack takes in is not absorbed from
the left, and neither is the place above it. -/
structure Grid (height width : Nat) (fromLeft fromAbove : Nat → Nat → Bool)
    (colspan rowspan : Nat → Nat → Nat) : Prop where
  row : ∀ r < height, Runs width (fromLeft r) (colspan r)
  column : ∀ i < width, Runs height (fun r => fromAbove r i) (fun r => rowspan r i)
  stacked : ∀ r i, fromAbove (r + 1) i = true →
    fromLeft r i = false ∧ fromLeft (r + 1) i = false

namespace Grid

variable {height width : Nat} {fromLeft fromAbove : Nat → Nat → Bool}
  {colspan rowspan : Nat → Nat → Nat}

/-- Whether the rectangle at one place covers another: nothing absorbs the
first, and its spans reach to the second. -/
def Covers (fromLeft fromAbove : Nat → Nat → Bool) (colspan rowspan : Nat → Nat → Nat)
    (q j r i : Nat) : Prop :=
  fromLeft q j = false ∧ fromAbove q j = false ∧ q ≤ r ∧ r < q + rowspan q j ∧
    j ≤ i ∧ i < j + colspan q j

/-- Nothing in a stack is absorbed from the left. -/
theorem fromLeft_stack (h : Grid height width fromLeft fromAbove colspan rowspan)
    {q j r : Nat} (hq : q < height) (hj : j < width) (hstart : fromLeft q j = false)
    (hqr : q ≤ r) (hr : r < q + rowspan q j) : fromLeft r j = false := by
  by_cases heq : q = r
  · rw [← heq]
    exact hstart
  · have habove : fromAbove r j = true := (h.column j hj).absorbed_of_lt hq (by omega) hr
    obtain ⟨r', rfl⟩ : ∃ r', r = r' + 1 := ⟨r - 1, by omega⟩
    exact (h.stacked r' j habove).2

/-- A place that nothing absorbs from the left is in a stack whose top nothing
absorbs. -/
theorem exists_top (h : Grid height width fromLeft fromAbove colspan rowspan)
    {r j : Nat} (hr : r < height) (hj : j < width) (hleft : fromLeft r j = false) :
    ∃ q ≤ r, fromLeft q j = false ∧ fromAbove q j = false ∧ r < q + rowspan q j := by
  obtain ⟨q, hqr, htop, hspan⟩ := (h.column j hj).exists_start hr
  refine ⟨q, hqr, ?_, htop, hspan⟩
  by_cases heq : q = r
  · rw [heq]
    exact hleft
  · have habove : fromAbove (q + 1) j = true :=
      (h.column j hj).absorbed_of_lt (i := q) (by omega) (by omega) (by omega)
    exact (h.stacked q j habove).1

section

variable (h : Grid height width fromLeft fromAbove colspan rowspan)

include h

/-- What covers a place stands in a row with a run that reaches the place's
row. -/
theorem fromLeft_of_covers {q j r i : Nat} (hr : r < height) (hi : i < width)
    (hc : Covers fromLeft fromAbove colspan rowspan q j r i) : fromLeft r j = false := by
  obtain ⟨hleft, -, hqr, hrow, hji, -⟩ := hc
  exact h.fromLeft_stack (by omega) (by omega) hleft hqr hrow

theorem colspan_stack
    (hequal : ∀ r i, i < width → fromAbove (r + 1) i = true →
      colspan (r + 1) i = colspan r i) {q j r : Nat} (hq : q < height) (hj : j < width)
    (hqr : q ≤ r) (hr : r < q + rowspan q j) : colspan r j = colspan q j := by
  induction hqr with
  | refl => rfl
  | @step r hqr ih =>
      have habove : fromAbove (r + 1) j = true :=
        (h.column j hj).absorbed_of_lt hq (Nat.lt_succ_of_le hqr) hr
      rw [hequal r j hj habove, ih (by omega)]

/-- Stacks of equal width cover every place once. -/
theorem existsUnique_covers
    (hequal : ∀ r i, i < width → fromAbove (r + 1) i = true →
      colspan (r + 1) i = colspan r i) {r i : Nat} (hr : r < height) (hi : i < width) :
    ∃! p : Nat × Nat, Covers fromLeft fromAbove colspan rowspan p.1 p.2 r i := by
  obtain ⟨j, hji, hj, hspan⟩ := (h.row r hr).exists_start hi
  obtain ⟨q, hqr, hleft, htop, hrow⟩ := h.exists_top hr (by omega) hj
  refine ⟨(q, j), ?_, ?_⟩
  · refine ⟨hleft, htop, hqr, hrow, hji, ?_⟩
    rw [← h.colspan_stack hequal (by omega) (by omega) hqr hrow]
    exact hspan
  · rintro ⟨q', j'⟩ hc
    have hj' := h.fromLeft_of_covers hr hi hc
    obtain ⟨hleft', htop', hqr', hrow', hji', hspan'⟩ := hc
    rw [← h.colspan_stack hequal (by omega) (by omega) hqr' hrow'] at hspan'
    have hjj : j' = j := (h.row r hr).start_unique hi hj' hji' hspan' hj hji hspan
    subst hjj
    have hqq : q' = q :=
      (h.column j' (by omega)).start_unique hr htop' hqr' hrow' htop hqr hrow
    rw [hqq]

section

variable (htiles : ∀ r < height, ∀ i < width,
    ∃! p : Nat × Nat, Covers fromLeft fromAbove colspan rowspan p.1 p.2 r i)
  {q r i : Nat} (hr : r < height) (hi : i < width) (hleft : fromLeft q i = false)
  (htop : fromAbove q i = false) (hqr : q ≤ r) (hrow : r < q + rowspan q i)

include htiles hr hi hleft htop hqr hrow

/-- Nothing in a stack is narrower than its top: the place behind a narrower
cell would be covered by the stack and from its own column. -/
theorem colspan_le_of_tiles : colspan q i ≤ colspan r i := by
  refine Nat.le_of_not_lt fun hlt => ?_
  have hq : q < height := by omega
  have hfit := (h.row q hq).add_span_le hi
  have hpos := (h.row r hr).span_pos hi
  have hend : fromLeft r (i + colspan r i) = false := (h.row r hr).absorbed_end hi
  obtain ⟨p, hpr, hpleft, hptop, hprow⟩ := h.exists_top (j := i + colspan r i) hr (by omega) hend
  have hppos := (h.row p (by omega)).span_pos (i := i + colspan r i) (by omega)
  have hstack : Covers fromLeft fromAbove colspan rowspan q i r (i + colspan r i) :=
    ⟨hleft, htop, hqr, hrow, by omega, by omega⟩
  have hown : Covers fromLeft fromAbove colspan rowspan p (i + colspan r i) r
      (i + colspan r i) := ⟨hpleft, hptop, hpr, hprow, by omega, by omega⟩
  have hunique : (q, i) = (p, i + colspan r i) :=
    (htiles r hr (i + colspan r i) (by omega)).unique hstack hown
  have := (Prod.mk.inj hunique).2
  omega

/-- Nothing in a stack is wider than its top: what covers the place behind the
stack would cover the stack's own place as well. -/
theorem colspan_ge_of_tiles : colspan r i ≤ colspan q i := by
  refine Nat.le_of_not_lt fun hlt => ?_
  have hfit := (h.row r hr).add_span_le hi
  have hpos := (h.row q (by omega)).span_pos hi
  obtain ⟨⟨p, j⟩, hcovers, -⟩ := htiles r hr (i + colspan q i) (by omega)
  have hc : Covers fromLeft fromAbove colspan rowspan p j r (i + colspan q i) := hcovers
  have hrj := h.fromLeft_of_covers hr (by omega) hc
  obtain ⟨hpleft, hptop, hpr, hprow, hji, hspan⟩ := hc
  have hnot : ¬ i < j := by
    intro hij
    rw [(h.row r hr).absorbed_of_lt hi hij (by omega)] at hrj
    cases hrj
  by_cases hj : j = i
  · subst hj
    rw [(h.column j hi).start_unique hr hptop hpr hprow htop hqr hrow] at hspan
    omega
  · have hother : Covers fromLeft fromAbove colspan rowspan p j r i :=
      ⟨hpleft, hptop, hpr, hprow, by omega, by omega⟩
    have hstack : Covers fromLeft fromAbove colspan rowspan q i r i :=
      ⟨hleft, htop, hqr, hrow, by omega, by omega⟩
    have hunique : (p, j) = (q, i) := (htiles r hr i hi).unique hother hstack
    exact hj (Prod.mk.inj hunique).2

/-- If every place is covered once, a stack has one width. -/
theorem colspan_eq_of_tiles : colspan r i = colspan q i :=
  Nat.le_antisymm (h.colspan_ge_of_tiles htiles hr hi hleft htop hqr hrow)
    (h.colspan_le_of_tiles htiles hr hi hleft htop hqr hrow)

end

/-- The rectangles tile the grid if and only if everything that a stack takes
in is as wide as what is above it. -/
theorem tiles_iff :
    (∀ r < height, ∀ i < width,
        ∃! p : Nat × Nat, Covers fromLeft fromAbove colspan rowspan p.1 p.2 r i) ↔
      ∀ r i, i < width → fromAbove (r + 1) i = true →
        colspan (r + 1) i = colspan r i := by
  constructor
  · intro htiles r i hi habove
    have hr := (h.column i hi).lt_of_absorbed habove
    obtain ⟨hleft, hleft'⟩ := h.stacked r i habove
    obtain ⟨q, hqr, hq, htop, hrow⟩ := h.exists_top hr hi hleft'
    have hne : q ≠ r + 1 := by
      intro heq
      rw [heq, habove] at htop
      cases htop
    rw [h.colspan_eq_of_tiles htiles hr hi hq htop hqr hrow,
      h.colspan_eq_of_tiles htiles (r := r) (by omega) hi hq htop (by omega) (by omega)]
  · intro hequal r hr i hi
    exact h.existsUnique_covers hequal hr hi

end

end Grid

/-! ## The grid of a table -/

/-- A chain of things that span one place each is a line of runs. -/
theorem runs_of_chain {α : Type} (J : Joining α) {xs : List α}
    (hspan : ∀ x ∈ xs, J.span x = 1) :
    Runs xs.length (J.absorbed xs) (fun i => J.reach (xs.drop i)) where
  first := rfl
  beyond _ hi := Joining.absorbed_of_length_le hi
  step := by
    intro i hi
    have hx := List.getElem?_eq_getElem hi
    rw [Joining.reach_drop hx, hspan _ (List.getElem_mem hi)]

theorem fromLeft_eq_false {rows : List Row} {r i : Nat} {c : Cell}
    (hc : (column i (rows.map Row.joined))[r]? = some (some c))
    (hsuppressed : c.suppressed = false) : fromLeft rows r i = false := by
  have hr : r < (rows.map Row.joined).length := by
    have := (List.getElem?_eq_some_iff.1 hc).1
    rw [column, List.length_map] at this
    exact this
  rw [column_getElem? hr, cellAt?_joined] at hc
  injection hc with hc
  obtain ⟨d, -, rfl⟩ := Option.map_eq_some_iff.1 hc
  exact (Bool.or_eq_false_iff.1 hsuppressed).2

theorem exists_succ_of_fromAbove {rows : List Row} {r i : Nat}
    (h : fromAbove rows r i = true) : ∃ above, r = above + 1 := by
  cases r with
  | zero => cases h
  | succ above => exact ⟨above, rfl⟩

/-- A row of a number of cells before anything was merged. -/
structure Row.IsFresh (n : Nat) (row : Row) : Prop where
  length : row.cells.length = n
  cells : ∀ c ∈ row.cells, c.colspan = 1 ∧ c.rowspan = 1 ∧ c.suppressed = false

section

variable {n : Nat} {rows : List Row} (hfresh : ∀ row ∈ rows, row.IsFresh n)

include hfresh

theorem exists_cell {r i : Nat} (hr : r < rows.length) (hi : i < n) :
    ∃ c, cellAt? rows r i = some c ∧ c.colspan = 1 ∧ c.rowspan = 1 ∧ c.suppressed = false := by
  have hrow := hfresh _ (List.getElem_mem hr)
  have hlength : i < rows[r].cells.length := by
    rw [hrow.length]
    exact hi
  refine ⟨rows[r].cells[i], ?_, hrow.cells _ (List.getElem_mem hlength)⟩
  rw [cellAt?, rowCells, List.getElem?_eq_getElem hr]
  exact List.getElem?_eq_getElem hlength

theorem cellAt?_eq_none {r i : Nat} (h : rows.length ≤ r ∨ n ≤ i) : cellAt? rows r i = none := by
  rw [cellAt?, rowCells]
  cases hrow : rows[r]? with
  | none => rfl
  | some row =>
      have hmem := List.mem_of_getElem? hrow
      have hr : r < rows.length := (List.getElem?_eq_some_iff.1 hrow).1
      refine List.getElem?_eq_none ?_
      show row.cells.length ≤ i
      rw [(hfresh row hmem).length]
      omega

theorem runs_of_row {r : Nat} (hr : r < rows.length) :
    Runs n (fromLeft rows r) (colspanOf rows r) := by
  have hrow := hfresh _ (List.getElem_mem hr)
  have hcells : rowCells rows r = rows[r].cells := by
    rw [rowCells, List.getElem?_eq_getElem hr]
    rfl
  have hruns := runs_of_chain leftward fun c hc => (hrow.cells c hc).1
  rw [hrow.length, ← hcells] at hruns
  exact hruns

theorem runs_of_column {i : Nat} (hi : i < n) :
    Runs rows.length (fun r => fromAbove rows r i) (fun r => rowspanOf rows r i) := by
  have hlength : (column i (rows.map Row.joined)).length = rows.length := by
    rw [column, List.length_map, List.length_map]
  have hspan : ∀ x ∈ column i (rows.map Row.joined), upward.span x = 1 := by
    intro x hx
    obtain ⟨r, hx⟩ := List.mem_iff_getElem?.1 hx
    have hr : r < rows.length := by
      rw [← hlength]
      exact (List.getElem?_eq_some_iff.1 hx).1
    obtain ⟨c, hc, -, hrowspan, -⟩ := exists_cell hfresh hr hi
    rw [column_getElem? (by rw [List.length_map]; exact hr), cellAt?_joined, hc] at hx
    injection hx with hx
    rw [← hx]
    exact hrowspan
  have hruns := runs_of_chain upward hspan
  rw [hlength] at hruns
  exact hruns

omit hfresh in
theorem fromLeft_of_fromAbove {r i : Nat} (h : fromAbove rows (r + 1) i = true) :
    fromLeft rows r i = false ∧ fromLeft rows (r + 1) i = false := by
  obtain ⟨x, y, hx, hy, hjoins⟩ := Joining.joins_of_absorbed h
  cases x with
  | none => cases hjoins
  | some a =>
      cases y with
      | none => cases hjoins
      | some c =>
          have hbelow : a.joinsBelow c = true := hjoins
          simp only [Cell.joinsBelow, Bool.and_eq_true, Bool.not_eq_true'] at hbelow
          exact ⟨fromLeft_eq_false hx hbelow.2, fromLeft_eq_false hy hbelow.1.2⟩

theorem grid_of_isFresh :
    Grid rows.length n (fromLeft rows) (fromAbove rows) (colspanOf rows) (rowspanOf rows) where
  row _ := runs_of_row hfresh
  column _ := runs_of_column hfresh
  stacked _ _ := fromLeft_of_fromAbove

end

/-! ## Tables of nodes -/

/-- What a cell takes up in a table. -/
structure Extent where
  colspan : Nat
  rowspan : Nat
  suppressed : Bool
deriving DecidableEq

/-- The extent of a node, if it is a cell. -/
def extentOf? : Node → Option Extent
  | .branch (.tableCell colspan rowspan suppressed _) _ _ => some ⟨colspan, rowspan, suppressed⟩
  | _ => none

/-- The extent of the cell at a place of some rows. -/
def extentAt? (rows : List Node) (r i : Nat) : Option Extent :=
  ((rows[r]?.bind rowCells?).bind (·[i]?)).bind extentOf?

/-- Whether a node is a cell before anything was merged. -/
def isFreshCell (n : Node) : Bool := extentOf? n == some ⟨1, 1, false⟩

/-- Whether a node is a row of a number of cells before anything was merged. -/
def isFreshRow (n : Nat) (row : Node) : Bool :=
  match rowCells? row with
  | some cells => cells.length == n && cells.all isFreshCell
  | none => false

/-- Whether the cell at one place covers another place: it is not suppressed
and its spans reach there. -/
def CoversPlace (rows : List Node) (q j r i : Nat) : Prop :=
  ∃ e, extentAt? rows q j = some e ∧ e.suppressed = false ∧
    q ≤ r ∧ r < q + e.rowspan ∧ j ≤ i ∧ i < j + e.colspan

/-- Whether the cell at a place was left by one step and suppressed by the
next. -/
def NewlySuppressed (before after : List Node) (r i : Nat) : Prop :=
  (extentAt? before r i).map Extent.suppressed = some false ∧
    (extentAt? after r i).map Extent.suppressed = some true

theorem eq_node_of_extentOf? {n : Node} {e : Extent} (h : extentOf? n = some e) :
    ∃ c : Cell, n = c.node ∧ c.colspan = e.colspan ∧ c.rowspan = e.rowspan ∧
      c.suppressed = e.suppressed := by
  unfold extentOf? at h
  split at h
  · next colspan rowspan suppressed alignment cs m =>
      injection h with h
      subst h
      exact ⟨⟨colspan, rowspan, suppressed, alignment, cs, m⟩, rfl, rfl, rfl, rfl⟩
  · cases h

theorem exists_fresh_cells {ns : List Node} (h : ns.all isFreshCell = true) :
    ∃ cells : List Cell, ns = cells.map Cell.node ∧
      ∀ c ∈ cells, c.colspan = 1 ∧ c.rowspan = 1 ∧ c.suppressed = false := by
  induction ns with
  | nil => exact ⟨[], rfl, fun _ hc => absurd hc List.not_mem_nil⟩
  | cons n ns ih =>
      rw [List.all_cons, Bool.and_eq_true] at h
      obtain ⟨cells, rfl, hcells⟩ := ih h.2
      obtain ⟨c, rfl, hc⟩ := eq_node_of_extentOf? (eq_of_beq h.1)
      exact ⟨c :: cells, rfl, List.forall_mem_cons.2 ⟨hc, hcells⟩⟩

theorem exists_fresh_rows {n : Nat} {ns : List Node} (h : ns.all (isFreshRow n) = true) :
    ∃ rows : List Row, ns = rows.map Row.node ∧ ∀ row ∈ rows, row.IsFresh n := by
  induction ns with
  | nil => exact ⟨[], rfl, fun _ hrow => absurd hrow List.not_mem_nil⟩
  | cons node ns ih =>
      rw [List.all_cons, Bool.and_eq_true] at h
      obtain ⟨rows, rfl, hrows⟩ := ih h.2
      have hnode := h.1
      unfold isFreshRow rowCells? at hnode
      cases node with
      | leaf l m => cases hnode
      | branch k cs m =>
          cases k with
          | tableRow isHeader =>
              dsimp only at hnode
              rw [Bool.and_eq_true] at hnode
              obtain ⟨cells, rfl, hcells⟩ := exists_fresh_cells hnode.2
              have hlength : cells.length = n := by
                rw [← eq_of_beq hnode.1, List.length_map]
              exact ⟨⟨isHeader, cells, m⟩ :: rows, rfl,
                List.forall_mem_cons.2 ⟨⟨hlength, hcells⟩, hrows⟩⟩
          | _ => cases hnode

theorem extentAt?_node (rows : List Row) (r i : Nat) :
    extentAt? (rows.map Row.node) r i =
      (cellAt? rows r i).map fun c => ⟨c.colspan, c.rowspan, c.suppressed⟩ := by
  rw [extentAt?, cellAt?, rowCells, List.getElem?_map]
  cases rows[r]? with
  | none => rfl
  | some row =>
      show (((row.cells.map Cell.node)[i]?).bind extentOf?) = _
      rw [List.getElem?_map]
      cases hc : row.cells[i]? with
      | none =>
          show _ = Option.map _ row.cells[i]?
          rw [hc]
          rfl
      | some c =>
          show _ = Option.map _ row.cells[i]?
          rw [hc]
          rfl

section

variable {n : Nat} {rows : List Row} (hfresh : ∀ row ∈ rows, row.IsFresh n)

include hfresh

theorem extentAt?_joined {r i : Nat} (hr : r < rows.length) (hi : i < n) :
    extentAt? ((rows.map Row.joined).map Row.node) r i =
      some ⟨colspanOf rows r i, 1, fromLeft rows r i⟩ := by
  obtain ⟨c, hc, -, hrowspan, hsuppressed⟩ := exists_cell hfresh hr hi
  rw [extentAt?_node, cellAt?_joined, hc]
  simp [hrowspan, hsuppressed]

theorem extentAt?_merged {r i : Nat} (hr : r < rows.length) (hi : i < n) :
    extentAt? ((joinRows (rows.map Row.joined)).map Row.node) r i =
      some ⟨colspanOf rows r i, rowspanOf rows r i,
        fromLeft rows r i || fromAbove rows r i⟩ := by
  obtain ⟨c, hc, -, -, hsuppressed⟩ := exists_cell hfresh hr hi
  rw [extentAt?_node, cellAt?_merged hr, hc]
  simp [hsuppressed]

theorem lt_of_extentAt?_merged {r i : Nat} {e : Extent}
    (h : extentAt? ((joinRows (rows.map Row.joined)).map Row.node) r i = some e) :
    r < rows.length ∧ i < n := by
  by_cases hr : r < rows.length
  · refine ⟨hr, ?_⟩
    by_cases hi : i < n
    · exact hi
    · rw [extentAt?_node, cellAt?_merged hr, cellAt?_eq_none hfresh (Or.inr (by omega))] at h
      cases h
  · have hnone : ((joinRows (rows.map Row.joined)).map Row.node)[r]? = none := by
      rw [List.getElem?_eq_none_iff, List.length_map, length_joinRows, List.length_map]
      omega
    rw [extentAt?, hnone] at h
    cases h

theorem coversPlace_iff {q j r i : Nat} (hr : r < rows.length) (hi : i < n) :
    CoversPlace ((joinRows (rows.map Row.joined)).map Row.node) q j r i ↔
      Grid.Covers (fromLeft rows) (fromAbove rows) (colspanOf rows) (rowspanOf rows) q j r i := by
  constructor
  · rintro ⟨e, he, hsuppressed, hcover⟩
    obtain ⟨hq, hj⟩ := lt_of_extentAt?_merged hfresh he
    rw [extentAt?_merged hfresh hq hj] at he
    injection he with he
    subst he
    rw [Bool.or_eq_false_iff] at hsuppressed
    exact ⟨hsuppressed.1, hsuppressed.2, hcover⟩
  · rintro ⟨hleft, habove, hqr, hrow, hji, hcol⟩
    refine ⟨_, extentAt?_merged hfresh (by omega) (by omega), ?_, hqr, hrow, hji, hcol⟩
    rw [hleft, habove]
    rfl

theorem newlySuppressed_iff {r i : Nat} :
    NewlySuppressed ((rows.map Row.joined).map Row.node)
        ((joinRows (rows.map Row.joined)).map Row.node) r i ↔
      i < n ∧ fromAbove rows r i = true := by
  have hgrid := grid_of_isFresh hfresh
  constructor
  · rintro ⟨hbefore, hafter⟩
    obtain ⟨e, he, -⟩ := Option.map_eq_some_iff.1 hafter
    obtain ⟨hr, hi⟩ := lt_of_extentAt?_merged hfresh he
    rw [extentAt?_joined hfresh hr hi, Option.map_some] at hbefore
    rw [extentAt?_merged hfresh hr hi, Option.map_some] at hafter
    injection hbefore with hleft
    injection hafter with habove
    have hleft' : fromLeft rows r i = false := hleft
    have habove' : (fromLeft rows r i || fromAbove rows r i) = true := habove
    rw [hleft', Bool.false_or] at habove'
    exact ⟨hi, habove'⟩
  · rintro ⟨hi, habove⟩
    have hr := (hgrid.column i hi).lt_of_absorbed habove
    obtain ⟨r, rfl⟩ := exists_succ_of_fromAbove habove
    have hleft := (hgrid.stacked r i habove).2
    rw [NewlySuppressed, extentAt?_joined hfresh hr hi, extentAt?_merged hfresh hr hi, hleft,
      habove]
    exact ⟨rfl, rfl⟩

end

/-- Merging the marked cells of a table whose rows have one length never fails
and leaves cells that fit into the table. They cover every place once if and
only if every cell that is merged into the one above it is as wide as that one
after merging along the rows. -/
theorem merged_tiles_iff {n : Nat} {rows : List Node} (h : rows.all (isFreshRow n) = true) :
    (mergeColumns rows).failure = none ∧
      (mergeRows (mergeColumns rows).value).failure = none ∧
      (∀ r i e, extentAt? (mergeRows (mergeColumns rows).value).value r i = some e →
        e.suppressed = false → i + e.colspan ≤ n ∧ r + e.rowspan ≤ rows.length) ∧
      ((∀ r < rows.length, ∀ i < n, ∃! p : Nat × Nat,
          CoversPlace (mergeRows (mergeColumns rows).value).value p.1 p.2 r i) ↔
        ∀ r i, NewlySuppressed (mergeColumns rows).value
            (mergeRows (mergeColumns rows).value).value r i →
          0 < r ∧ (extentAt? (mergeColumns rows).value r i).map Extent.colspan =
            (extentAt? (mergeColumns rows).value (r - 1) i).map Extent.colspan) := by
  obtain ⟨rows, rfl, hfresh⟩ := exists_fresh_rows h
  have hgrid := grid_of_isFresh hfresh
  obtain ⟨hcolumns, hcolumnsFailure⟩ := mergeColumns_node rows
  obtain ⟨hmerged, hmergedFailure⟩ := mergeRows_node (rows.map Row.joined)
  rw [hcolumns, hmerged, List.length_map]
  refine ⟨hcolumnsFailure, hmergedFailure, ?_, ?_⟩
  · intro r i e he _
    obtain ⟨hr, hi⟩ := lt_of_extentAt?_merged hfresh he
    rw [extentAt?_merged hfresh hr hi] at he
    injection he with he
    subst he
    exact ⟨(hgrid.row r hr).add_span_le hi, (hgrid.column i hi).add_span_le hr⟩
  · have hcovers : (∀ r < rows.length, ∀ i < n, ∃! p : Nat × Nat,
          CoversPlace ((joinRows (rows.map Row.joined)).map Row.node) p.1 p.2 r i) ↔
        ∀ r < rows.length, ∀ i < n, ∃! p : Nat × Nat, Grid.Covers (fromLeft rows)
          (fromAbove rows) (colspanOf rows) (rowspanOf rows) p.1 p.2 r i :=
      forall₄_congr fun r hr i hi => existsUnique_congr fun p => coversPlace_iff hfresh hr hi
    rw [hcovers, hgrid.tiles_iff]
    constructor
    · intro hequal r i hnew
      obtain ⟨hi, habove⟩ := (newlySuppressed_iff hfresh).1 hnew
      have hr := (hgrid.column i hi).lt_of_absorbed habove
      obtain ⟨r, rfl⟩ := exists_succ_of_fromAbove habove
      refine ⟨Nat.succ_pos r, ?_⟩
      rw [Nat.add_sub_cancel, extentAt?_joined hfresh hr hi,
        extentAt?_joined hfresh (by omega) hi]
      exact congrArg some (hequal r i hi habove)
    · intro hequal r i hi habove
      have hr := (hgrid.column i hi).lt_of_absorbed habove
      have hwidth := (hequal (r + 1) i ((newlySuppressed_iff hfresh).2 ⟨hi, habove⟩)).2
      rw [Nat.add_sub_cancel, extentAt?_joined hfresh hr hi,
        extentAt?_joined hfresh (by omega) hi] at hwidth
      injection hwidth

/-- A cell of one column that is merged into one of two columns. -/
def unevenTable : List Node :=
  let cell (s : String) : Node := .ofBranch (.tableCell 1 1 false none) [.ofText s]
  [.ofBranch (.tableRow true) [cell "a", cell "<"],
    .ofBranch (.tableRow false) [cell "^", cell "b"]]

theorem unevenTable_tiles_iff :
    (mergeColumns unevenTable).failure = none ∧
      (mergeRows (mergeColumns unevenTable).value).failure = none ∧
      (∀ r i e, extentAt? (mergeRows (mergeColumns unevenTable).value).value r i = some e →
        e.suppressed = false → i + e.colspan ≤ 2 ∧ r + e.rowspan ≤ unevenTable.length) ∧
      ((∀ r < unevenTable.length, ∀ i < 2, ∃! p : Nat × Nat,
          CoversPlace (mergeRows (mergeColumns unevenTable).value).value p.1 p.2 r i) ↔
        ∀ r i, NewlySuppressed (mergeColumns unevenTable).value
            (mergeRows (mergeColumns unevenTable).value).value r i →
          0 < r ∧ (extentAt? (mergeColumns unevenTable).value r i).map Extent.colspan =
            (extentAt? (mergeColumns unevenTable).value (r - 1) i).map Extent.colspan) :=
  merged_tiles_iff (by decide)

end TypstPress.TableSpans
