import TypstPress.Proofs.Document.WellFormed
import TypstPress.Transform.TableSpans

/-!
# What merging does not look at

Merging cells reads little of a table: which nodes are rows and cells, what their
kinds are called, the spans of the cells and the marks they start with. What
changes anything else of the cells (`RecastsCells`) and of the rows around them
(`RecastsRows`) can be done before merging or after it, and merging stops at the
same place with the same failure (`mergeTable_recast`).

Each step of merging has its lemma, in the order of the calls; only the first two
look into cells.
-/

namespace TypstPress.TableSpans

open Node

/-- What leaves of cells their spans and marks, and makes cells of cells only. -/
structure RecastsCells (g : Node → Node) : Prop where
  cell : ∀ alignment cs m, ∃ alignment' cs' m',
    (∀ mark, startsWithMark mark cs' = startsWithMark mark cs) ∧
      ∀ colspan rowspan suppressed,
        g (.branch (.tableCell colspan rowspan suppressed alignment) cs m) =
          .branch (.tableCell colspan rowspan suppressed alignment') cs' m'
  noCell : ∀ n, n.kind.isCell = false → (g n).kind.isCell = false
  isMark : ∀ mark n, TableSpans.isMark mark (g n) = TableSpans.isMark mark n
  kindName : ∀ n, (g n).kindName = n.kindName

/-- What does this to the cells of rows, and makes rows of rows only. -/
structure RecastsRows (g h : Node → Node) : Prop extends RecastsCells g where
  rowCells? : ∀ row, TableSpans.rowCells? (h row) = (TableSpans.rowCells? row).map (List.map g)
  rowKindName : ∀ row, (h row).kindName = row.kindName
  putChildren : ∀ cells row,
    TableSpans.putChildren (cells.map g) (h row) = h (TableSpans.putChildren cells row)

/-- The outcome with a function applied to what became of the nodes. -/
def Merge.map {α β : Type} (f : α → β) (merge : Merge α) : Merge β :=
  { value := f merge.value, merged := merge.merged, failure := merge.failure }

/-! ## Two cells -/

theorem mergeLeft_of_marked {left cell : Node} (hmark : isMark '<' cell = .ok true)
    (hleft : left.kind.isCell = false) :
    mergeLeft left cell = .error (.noSuchPart left.kindName "suppressed") := by
  unfold mergeLeft
  rw [hmark]
  cases left with
  | leaf l m => rfl
  | branch k cs m =>
      cases k with
      | tableCell => cases hleft
      | _ => rfl

theorem mergeLeft_of_left {colspan rowspan : Nat} {alignment : Option String} {cs : List Node}
    {m : Metadata} {cell : Node} (hmark : isMark '<' cell = .ok true)
    (hcell : cell.kind.isCell = false) :
    mergeLeft (.branch (.tableCell colspan rowspan false alignment) cs m) cell =
      .error (.noSuchPart cell.kindName "colspan") := by
  unfold mergeLeft
  rw [hmark]
  cases cell with
  | leaf l m => rfl
  | branch k cs m =>
      cases k with
      | tableCell => cases hcell
      | _ => rfl

theorem mergeUp_of_no_cell {cell : Node} (h : cell.kind.isCell = false) (above? : Option Node) :
    mergeUp above? cell = .error (.noSuchPart cell.kindName "suppressed") := by
  cases cell with
  | leaf l m => rfl
  | branch k cs m =>
      cases k with
      | tableCell => cases h
      | _ => rfl

theorem mergeUp_of_marked {colspan rowspan : Nat} {suppressed : Bool} {alignment : Option String}
    {cs : List Node} {m : Metadata} (hmark : (suppressed || !startsWithMark '^' cs) = false)
    {above : Node} (habove : above.kind.isCell = false) :
    mergeUp (some above) (.branch (.tableCell colspan rowspan suppressed alignment) cs m) =
      .error (.noSuchPart above.kindName "suppressed") := by
  simp only [mergeUp, hmark, Bool.false_eq_true, if_false]
  cases above with
  | leaf l m => rfl
  | branch k cs m =>
      cases k with
      | tableCell => cases habove
      | _ => rfl

section

variable {g h : Node → Node}

theorem mergeLeft_recast (hg : RecastsCells g) (left cell : Node) :
    mergeLeft (g left) (g cell) =
      (mergeLeft left cell).map fun merge => (g merge.1, g merge.2.1, merge.2.2) := by
  have hmark := hg.isMark '<' cell
  cases hcell : isMark '<' cell with
  | error f =>
      rw [hcell] at hmark
      simp only [mergeLeft, hmark, hcell, Except.map]
  | ok marked =>
      rw [hcell] at hmark
      cases marked with
      | false => simp only [mergeLeft, hmark, hcell, Except.map]
      | true =>
          -- a marked cell asks for a cell to its left and has to be one itself; either
          -- refusal names a kind, and kinds keep their names
          by_cases hl : left.kind.isCell = true
          · obtain ⟨colspan, rowspan, suppressed, alignment, cs, m, rfl⟩ := eq_cell hl
            obtain ⟨alignment', cs', m', -, hleft⟩ := hg.cell alignment cs m
            rw [hleft]
            cases suppressed with
            | true => simp only [mergeLeft, hmark, hcell, Except.map, if_true, hleft]
            | false =>
                by_cases hc : cell.kind.isCell = true
                · obtain ⟨colspan', rowspan', suppressed', alignment', cs', m', rfl⟩ := eq_cell hc
                  obtain ⟨alignment'', cs'', m'', -, hright⟩ := hg.cell alignment' cs' m'
                  rw [hright] at hmark ⊢
                  simp only [mergeLeft, hmark, hcell, Except.map, Bool.false_eq_true, if_false,
                    hleft, hright]
                · rw [Bool.not_eq_true] at hc
                  rw [mergeLeft_of_left hcell hc, mergeLeft_of_left hmark (hg.noCell _ hc),
                    hg.kindName]
                  rfl
          · rw [Bool.not_eq_true] at hl
            rw [mergeLeft_of_marked hcell hl, mergeLeft_of_marked hmark (hg.noCell _ hl),
              hg.kindName]
            rfl

theorem mergeUp_recast (hg : RecastsCells g) (above? : Option Node) (cell : Node) :
    mergeUp (above?.map g) (g cell) =
      (mergeUp above? cell).map fun merge => (merge.1.map g, g merge.2.1, merge.2.2) := by
  by_cases hc : cell.kind.isCell = true
  · obtain ⟨colspan, rowspan, suppressed, alignment, cs, m, rfl⟩ := eq_cell hc
    obtain ⟨alignment', cs', m', hmark, hcell⟩ := hg.cell alignment cs m
    rw [hcell]
    cases hskip : suppressed || !startsWithMark '^' cs with
    | true => simp only [mergeUp, hmark, hskip, if_true, Except.map, hcell]
    | false =>
        have hskip' : (suppressed || !startsWithMark '^' cs') = false := by rw [hmark, hskip]
        cases above? with
        | none =>
            simp only [mergeUp, hskip, hskip', Bool.false_eq_true, if_false, Option.map_none,
              Except.map, hcell]
        | some above =>
            by_cases ha : above.kind.isCell = true
            · obtain ⟨colspan', rowspan', suppressed', alignment', cs', m', rfl⟩ := eq_cell ha
              obtain ⟨alignment'', cs'', m'', -, habove⟩ := hg.cell alignment' cs' m'
              rw [Option.map_some, habove]
              simp only [mergeUp, hskip, hskip', Bool.false_eq_true, if_false]
              split <;> simp only [Except.map, Option.map_some, hcell, habove]
            · rw [Bool.not_eq_true] at ha
              rw [Option.map_some, mergeUp_of_marked hskip ha,
                mergeUp_of_marked hskip' (hg.noCell _ ha), hg.kindName]
              rfl
  · rw [Bool.not_eq_true] at hc
    rw [mergeUp_of_no_cell hc, mergeUp_of_no_cell (hg.noCell _ hc), hg.kindName]
    rfl

/-! ## Rows -/

theorem mergeRow_recast (hg : RecastsCells g) (cells : List Node) :
    mergeRow (cells.map g) = (mergeRow cells).map (List.map g) := by
  induction cells with
  | nil => rfl
  | cons left cells ih =>
      rw [List.map_cons, mergeRow, mergeRow, ih]
      cases hfailure : (mergeRow cells).failure with
      | some f => simp only [Merge.map, hfailure, List.map_cons]
      | none =>
          cases hvalue : (mergeRow cells).value with
          | nil => simp only [Merge.map, hfailure, hvalue, List.map_cons, List.map_nil]
          | cons cell others =>
              simp only [Merge.map, hfailure, hvalue, List.map_cons, mergeLeft_recast hg]
              cases mergeLeft left cell <;> rfl

theorem mergeRowUp_recast (hg : RecastsCells g) (above cells : List Node) :
    mergeRowUp (above.map g) (cells.map g) =
      (mergeRowUp above cells).map fun rows => (rows.1.map g, rows.2.map g) := by
  induction cells generalizing above with
  | nil => rfl
  | cons cell cells ih =>
      rw [List.map_cons, mergeRowUp, mergeRowUp, List.head?_map, mergeUp_recast hg,
        ← List.map_tail]
      cases mergeUp above.head? cell with
      | error f => rfl
      | ok merge =>
          obtain ⟨top, cell', merged⟩ := merge
          simp only [Except.map, ih, Merge.map, List.map_append, List.map_cons]
          cases top <;> rfl

theorem mergeColumns_recast (hh : RecastsRows g h) (rows : List Node) :
    mergeColumns (rows.map h) = (mergeColumns rows).map (List.map h) := by
  induction rows with
  | nil => rfl
  | cons row rows ih =>
      rw [List.map_cons, mergeColumns, mergeColumns, hh.rowCells?]
      cases rowCells? row with
      | none => simp only [Option.map_none, Merge.map, List.map_cons, hh.rowKindName]
      | some cells =>
          simp only [Option.map_some, mergeRow_recast hh.toRecastsCells, ih]
          cases hfailure : (mergeRow cells).failure <;>
            simp only [Merge.map, hfailure, List.map_cons, hh.putChildren]

theorem mergeRows_recast (hh : RecastsRows g h) (rows : List Node) :
    mergeRows (rows.map h) = (mergeRows rows).map (List.map h) := by
  induction rows with
  | nil => rfl
  | cons row rows ih =>
      rw [List.map_cons, mergeRows, mergeRows, ih]
      cases hfailure : (mergeRows rows).failure with
      | some f => simp only [Merge.map, hfailure, List.map_cons]
      | none =>
          cases hvalue : (mergeRows rows).value with
          | nil => simp only [Merge.map, hfailure, hvalue, List.map_cons, List.map_nil]
          | cons below others =>
              simp only [Merge.map, hfailure, hvalue, List.map_cons, hh.rowCells?,
                hh.rowKindName]
              cases rowCells? row with
              | none => rfl
              | some above =>
                  cases rowCells? below with
                  | none => rfl
                  | some cells =>
                      simp only [Option.map_some, mergeRowUp_recast hh.toRecastsCells, Merge.map,
                        List.map_cons, hh.putChildren]

/-- A table whose rows are recast is merged as it was, with the same record. -/
theorem mergeTable_recast (hh : RecastsRows g h) (rows : List Node) :
    mergeTable (rows.map h) = ((mergeTable rows).1.map (List.map h), (mergeTable rows).2) := by
  rw [mergeTable, mergeTable, mergeColumns_recast hh]
  cases hcolumns : (mergeColumns rows).failure with
  | some f => simp only [Merge.map, hcolumns]
  | none =>
      simp only [Merge.map, hcolumns, mergeRows_recast hh]
      cases hspans : (mergeRows (mergeColumns rows).value).failure with
      | some f => simp only [hspans]
      | none => simp only [hspans]

end

end TypstPress.TableSpans
