import Mathlib.Data.List.Chain
import TypstPress.Proofs.Document.Preorder
import TypstPress.Proofs.Transform.SpanGrowth

/-!
# Cells that need no more merging

Both sweeps look at two neighbours at a time, and what they leave of them can be
told without them: a cell marked `<` is suppressed unless the one on its left
is, and the same holds of `^` and the cell above (`HeldLeft`, `HeldUp`). Growing
keeps neighbours settled, so what one sweep has settled the next one cannot
undo, and a merged table is settled all over (`held_of_mergeTable`).

The sweep up the columns finds nothing to do in a settled table. The sweep along
the rows does, because it asks whether the left neighbour is suppressed but not
whether the cell itself is: a cell that took in the mark on its right takes it
in once more (`Regains`). This is all that merging a settled table does
(`mergeTable_of_held`).
-/

namespace TypstPress

open Node

namespace TableSpans

/-! ## Cells that are settled -/

/-- Whether a cell is suppressed; nothing for what is no cell. -/
def suppressed? : Node → Option Bool
  | .branch (.tableCell _ _ suppressed _) _ _ => some suppressed
  | _ => none

/-- Whether a cell need not be merged into its left neighbour any more. -/
def HeldLeft (left cell : Node) : Prop :=
  isMark '<' cell = .ok false ∨ isMark '<' cell = .ok true ∧
    (suppressed? left = some true ∨
      suppressed? left = some false ∧ suppressed? cell = some true)

/-- Whether a cell need not be merged into the cell above any more. -/
def HeldUp (above? : Option Node) (cell : Node) : Prop :=
  suppressed? cell = some true ∨ suppressed? cell = some false ∧
    (startsWithMark '^' cell.children = false ∨ above? = none ∨
      above?.bind suppressed? = some true)

/-- Whether merging again widens a cell by its right neighbour: the neighbour
bears the mark and the cell is not suppressed. -/
def Regains : Node → Node → Prop
  | .branch (.tableCell _ _ false _) _ _, .branch (.tableCell colspan _ _ _) content _ =>
    startsWithMark '<' content = true ∧ colspan ≠ 0
  | _, _ => False

theorem suppressed?_eq_some {n : Node} {suppressed : Bool} (h : suppressed? n = some suppressed) :
    ∃ colspan rowspan alignment cs m,
      n = .branch (.tableCell colspan rowspan suppressed alignment) cs m := by
  unfold suppressed? at h
  split at h
  · cases h
    exact ⟨_, _, _, _, _, rfl⟩
  · cases h

/-! ### Growing keeps cells settled -/

theorem isMark_of_grown {mark : Char} {n n' : Node} (h : Grown n n') :
    isMark mark n' = isMark mark n := by
  cases h with
  | leaf l m => rfl
  | @branch k k' cs cs' m hkind hchildren =>
      have hstart : startsWithMark mark cs' = startsWithMark mark cs :=
        startsWithMark_of_grown hchildren
      cases hkind with
      | cell => exact congrArg Except.ok hstart
      | refl =>
          rw [isMark, isMark]
          cases k <;> first | rfl | exact congrArg Except.ok hstart

theorem suppressed?_of_grown {n n' : Node} (h : Grown n n') {suppressed : Bool}
    (hn : suppressed? n = some suppressed) :
    suppressed? n' = some suppressed ∨ suppressed? n' = some true := by
  obtain ⟨colspan, rowspan, alignment, cs, m, rfl⟩ := suppressed?_eq_some hn
  cases h with
  | branch hkind hchildren =>
      cases hkind with
      | refl => exact .inl rfl
      | cell hcolspan hrowspan hsuppressed =>
          rcases hsuppressed with rfl | ⟨-, rfl⟩
          · exact .inl rfl
          · exact .inr rfl

theorem suppressed_of_grown {n n' : Node} (h : Grown n n') (hn : suppressed? n = some true) :
    suppressed? n' = some true := by
  rcases suppressed?_of_grown h hn with hn' | hn' <;> exact hn'

theorem HeldLeft.grown {left left' cell cell' : Node} (h : HeldLeft left cell)
    (hleft : Grown left left') (hcell : Grown cell cell') : HeldLeft left' cell' := by
  rw [HeldLeft, isMark_of_grown hcell]
  rcases h with hmark | ⟨hmark, hsuppressed | ⟨hopen, hsuppressed⟩⟩
  · exact .inl hmark
  · exact .inr ⟨hmark, .inl (suppressed_of_grown hleft hsuppressed)⟩
  · refine .inr ⟨hmark, ?_⟩
    rcases suppressed?_of_grown hleft hopen with hleft | hleft
    · exact .inr ⟨hleft, suppressed_of_grown hcell hsuppressed⟩
    · exact .inl hleft

theorem HeldUp.grown {above? above?' : Option Node} {cell cell' : Node} (h : HeldUp above? cell)
    (habove : List.Forall₂ Grown above?.toList above?'.toList) (hcell : Grown cell cell') :
    HeldUp above?' cell' := by
  rcases h with hsuppressed | ⟨hopen, hrest⟩
  · exact .inl (suppressed_of_grown hcell hsuppressed)
  · rcases suppressed?_of_grown hcell hopen with hopen | hsuppressed
    · refine .inr ⟨hopen, ?_⟩
      rcases hrest with hmark | rfl | hrest
      · left
        obtain ⟨_, _, _, _, _, rfl⟩ := suppressed?_eq_some hopen
        cases hcell with
        | branch hkind hchildren => exact (startsWithMark_of_grown hchildren).trans hmark
      · right; left
        cases above?' with
        | none => rfl
        | some above => cases habove
      · right; right
        obtain ⟨above, rfl, hsuppressed⟩ := Option.bind_eq_some_iff.1 hrest
        cases above?' with
        | none => cases habove
        | some above' =>
            cases habove with
            | cons hgrown => exact suppressed_of_grown hgrown hsuppressed
    · exact .inl hsuppressed

/-! ## One step settles a cell -/

theorem heldLeft_of_mergeLeft {left cell left' cell' : Node} {merged : Bool}
    (h : mergeLeft left cell = .ok (left', cell', merged)) : HeldLeft left' cell' := by
  unfold mergeLeft at h
  split at h
  · cases h
  · next hmark =>
      cases h
      exact .inl hmark
  · next hmark =>
      split at h
      · next colspan rowspan suppressed alignment cs m =>
          split at h
          · next hsuppressed =>
              cases h
              exact .inr ⟨hmark, .inl (congrArg some hsuppressed)⟩
          · next hopen =>
              split at h
              · cases h
                refine .inr ⟨hmark, .inr ⟨congrArg some ?_, rfl⟩⟩
                simpa using hopen
              · cases h
      · cases h

/-- Merging a settled cell does no more than widen its left neighbour. -/
theorem mergeLeft_of_held {left cell : Node} (h : HeldLeft left cell) :
    ∃ left' merged, mergeLeft left cell = .ok (left', cell, merged) ∧
      (left' = left ↔ ¬ Regains left cell) := by
  rcases h with hmark | ⟨hmark, hsuppressed | ⟨hopen, hsuppressed⟩⟩
  · refine ⟨left, false, by simp only [mergeLeft, hmark], iff_of_true rfl fun hregains => ?_⟩
    unfold Regains at hregains
    split at hregains
    · simp [isMark, contentOf, hregains.1] at hmark
    · exact hregains
  · obtain ⟨colspan, rowspan, alignment, cs, m, rfl⟩ := suppressed?_eq_some hsuppressed
    exact ⟨_, false, by simp only [mergeLeft, hmark, if_true], iff_of_true rfl id⟩
  · obtain ⟨colspan, rowspan, alignment, cs, m, rfl⟩ := suppressed?_eq_some hopen
    obtain ⟨colspan', rowspan', alignment', cs', m', rfl⟩ := suppressed?_eq_some hsuppressed
    refine ⟨.branch (.tableCell (colspan + colspan') rowspan false alignment) cs m, true,
      by simp only [mergeLeft, hmark, Bool.false_eq_true, if_false], ?_⟩
    have hstart : startsWithMark '<' cs' = true := by
      simpa only [isMark, contentOf, Except.ok.injEq] using hmark
    simp [Regains, hstart]

theorem heldUp_of_mergeUp {above? top : Option Node} {cell cell' : Node} {merged : Bool}
    (h : mergeUp above? cell = .ok (top, cell', merged)) : HeldUp top cell' := by
  unfold mergeUp at h
  split at h
  · next colspan rowspan suppressed alignment cs m =>
      cases suppressed with
      | true =>
          cases h
          exact .inl rfl
      | false =>
          rw [Bool.false_or] at h
          split at h
          · next hmark =>
              cases h
              exact .inr ⟨rfl, .inl (Eq.mp (Bool.not_eq_true' _) hmark)⟩
          · split at h
            · cases h
              exact .inr ⟨rfl, .inr (.inl rfl)⟩
            · split at h
              · next hsuppressed =>
                  cases h
                  exact .inr ⟨rfl, .inr (.inr (congrArg some hsuppressed))⟩
              · cases h
                exact .inl rfl
            · cases h
  · cases h

theorem mergeUp_of_held {above? : Option Node} {cell : Node} (h : HeldUp above? cell) :
    mergeUp above? cell = .ok (above?, cell, false) := by
  rcases h with hsuppressed | ⟨hopen, hrest⟩
  · obtain ⟨colspan, rowspan, alignment, cs, m, rfl⟩ := suppressed?_eq_some hsuppressed
    rfl
  · obtain ⟨colspan, rowspan, alignment, cs, m, rfl⟩ := suppressed?_eq_some hopen
    rcases hrest with hmark | rfl | hrest
    · rw [children] at hmark
      simp only [mergeUp, hmark, Bool.not_false, Bool.or_true, if_true]
    · unfold mergeUp
      simp only [ite_self]
    · obtain ⟨above, rfl, hsuppressed⟩ := Option.bind_eq_some_iff.1 hrest
      obtain ⟨colspan', rowspan', alignment', cs', m', rfl⟩ := suppressed?_eq_some hsuppressed
      unfold mergeUp
      simp only [if_true, ite_self]

/-! ## Rows -/

theorem mergeRow_cons_of_ok {left cell left' cell' : Node} {cells others : List Node}
    {merged : Bool} (hfailure : (mergeRow cells).failure = none)
    (hvalue : (mergeRow cells).value = cell :: others)
    (hmerge : mergeLeft left cell = .ok (left', cell', merged)) :
    (mergeRow (left :: cells)).failure = none ∧
      (mergeRow (left :: cells)).value = left' :: cell' :: others := by
  rw [mergeRow]
  simp only [hfailure, hvalue, hmerge, and_self]

/-- What merging the rest of a row left of its first cell, and how that cell was
merged, if the row as a whole was merged. -/
theorem exists_merge_of_mergeRow {left next : Node} {cells : List Node}
    (h : (mergeRow (left :: next :: cells)).failure = none) :
    (mergeRow (next :: cells)).failure = none ∧ ∃ cell others left' cell' merged,
      (mergeRow (next :: cells)).value = cell :: others ∧
      mergeLeft left cell = .ok (left', cell', merged) ∧
      (mergeRow (left :: next :: cells)).value = left' :: cell' :: others := by
  obtain ⟨cell, others, -, -, hvalue⟩ :=
    List.forall₂_cons_left_iff.1 (mergeRow_grown (next :: cells))
  rw [mergeRow] at h
  cases hfailure : (mergeRow (next :: cells)).failure with
  | some f => simp [hfailure] at h
  | none =>
      cases hmerge : mergeLeft left cell with
      | error f => simp [hfailure, hvalue, hmerge] at h
      | ok merge =>
          obtain ⟨left', cell', merged⟩ := merge
          exact ⟨rfl, cell, others, left', cell', merged, hvalue, hmerge,
            (mergeRow_cons_of_ok hfailure hvalue hmerge).2⟩

theorem held_of_mergeRow {cells : List Node} (h : (mergeRow cells).failure = none) :
    (mergeRow cells).value.IsChain HeldLeft := by
  induction cells with
  | nil => exact .nil
  | cons left cells ih =>
      cases cells with
      | nil => exact .singleton left
      | cons next cells =>
          obtain ⟨hfailure, cell, others, left', cell', merged, hrest, hmerge, hvalue⟩ :=
            exists_merge_of_mergeRow h
          have hheld := ih hfailure
          rw [hrest] at hheld
          rw [hvalue]
          -- the cell next to this pair was settled before it grew by this step
          exact .cons_cons (heldLeft_of_mergeLeft hmerge) (isChain_of_grown HeldLeft.grown hheld
            (.cons (mergeLeft_grown hmerge).2 (grown_all_refl others)))

/-- Merging a settled row again succeeds, and leaves it as it is if no cell
regains its neighbour. -/
theorem mergeRow_of_held {cells : List Node} (h : cells.IsChain HeldLeft) :
    (mergeRow cells).failure = none ∧
      ((mergeRow cells).value = cells ↔ cells.IsChain fun left cell => ¬ Regains left cell) := by
  induction cells with
  | nil => exact ⟨rfl, iff_of_true rfl .nil⟩
  | cons left cells ih =>
      cases cells with
      | nil => exact ⟨rfl, iff_of_true rfl (.singleton left)⟩
      | cons next cells =>
          rw [List.isChain_cons_cons] at h
          obtain ⟨hfailure, hsame⟩ := ih h.2
          obtain ⟨cell, others, hcell, -, hrest⟩ :=
            List.forall₂_cons_left_iff.1 (mergeRow_grown (next :: cells))
          obtain ⟨left', merged, hmerge, hleft⟩ :=
            mergeLeft_of_held (h.1.grown (.refl left) hcell)
          obtain ⟨hdone, hvalue⟩ := mergeRow_cons_of_ok hfailure hrest hmerge
          refine ⟨hdone, ?_⟩
          rw [hrest] at hsame
          rw [hvalue, List.cons.injEq, List.isChain_cons_cons, ← hsame, hleft]
          -- the neighbour that decides is the one before the rest was merged
          refine and_congr_left fun heq => ?_
          rw [(List.cons.inj heq).1]

/-- Whether a row has nothing but settled cells. -/
def HeldRow (row : Node) : Prop :=
  ∃ cells, rowCells? row = some cells ∧ cells.IsChain HeldLeft

theorem rowCells?_eq_some {row : Node} {cells : List Node} (h : rowCells? row = some cells) :
    ∃ isHeader m, row = .branch (.tableRow isHeader) cells m := by
  unfold rowCells? at h
  split at h
  · cases h
    exact ⟨_, _, rfl⟩
  · cases h

theorem rowCells?_of_grown {row row' : Node} {cells : List Node} (h : Grown row row')
    (hcells : rowCells? row = some cells) :
    ∃ cells', rowCells? row' = some cells' ∧ List.Forall₂ Grown cells cells' := by
  obtain ⟨isHeader, m, rfl⟩ := rowCells?_eq_some hcells
  cases h with
  | branch hkind hchildren =>
      cases hkind
      exact ⟨_, rfl, hchildren⟩

theorem HeldRow.grown {row row' : Node} (h : HeldRow row) (hgrown : Grown row row') :
    HeldRow row' := by
  obtain ⟨cells, hcells, hheld⟩ := h
  obtain ⟨cells', hcells', hgrown⟩ := rowCells?_of_grown hgrown hcells
  exact ⟨cells', hcells', isChain_of_grown HeldLeft.grown hheld hgrown⟩

theorem heldRow_of_grown {rows rows' : List Node} (h : ∀ row ∈ rows, HeldRow row)
    (hgrown : List.Forall₂ Grown rows rows') : ∀ row ∈ rows', HeldRow row := by
  intro row' hrow'
  obtain ⟨row, hrow, hgrown⟩ := exists_mem_of_grown hgrown hrow'
  exact (h row hrow).grown hgrown

/-- How the first of several rows was merged, if all of them were. -/
theorem exists_merge_of_mergeColumns {row : Node} {rows : List Node}
    (h : (mergeColumns (row :: rows)).failure = none) :
    (mergeColumns rows).failure = none ∧ ∃ cells, rowCells? row = some cells ∧
      (mergeRow cells).failure = none ∧ (mergeColumns (row :: rows)).value =
        putChildren (mergeRow cells).value row :: (mergeColumns rows).value := by
  rw [mergeColumns] at h ⊢
  cases hcells : rowCells? row with
  | none => simp [hcells] at h
  | some cells =>
      cases hhere : (mergeRow cells).failure with
      | some f => simp [hcells, hhere] at h
      | none =>
          simp only [hcells, hhere] at h
          exact ⟨h, cells, rfl, hhere, by simp only [hhere]⟩

theorem held_of_mergeColumns {rows : List Node} (h : (mergeColumns rows).failure = none) :
    ∀ row ∈ (mergeColumns rows).value, HeldRow row := by
  induction rows with
  | nil => exact fun _ hrow => absurd hrow List.not_mem_nil
  | cons row rows ih =>
      obtain ⟨hrows, cells, hcells, hhere, hvalue⟩ := exists_merge_of_mergeColumns h
      obtain ⟨isHeader, m, rfl⟩ := rowCells?_eq_some hcells
      rw [hvalue]
      exact List.forall_mem_cons.2 ⟨⟨_, rfl, held_of_mergeRow hhere⟩, ih hrows⟩

/-- Whether no cell of a row regains its neighbour. -/
def SteadyRow (row : Node) : Prop :=
  row.children.IsChain fun left cell => ¬ Regains left cell

theorem mergeColumns_of_held {rows : List Node} (h : ∀ row ∈ rows, HeldRow row) :
    (mergeColumns rows).failure = none ∧
      ((mergeColumns rows).value = rows ↔ ∀ row ∈ rows, SteadyRow row) := by
  induction rows with
  | nil => exact ⟨rfl, iff_of_true rfl fun _ hrow => absurd hrow List.not_mem_nil⟩
  | cons row rows ih =>
      rw [List.forall_mem_cons] at h
      obtain ⟨⟨cells, hcells, hheld⟩, hrows⟩ := h
      obtain ⟨isHeader, m, rfl⟩ := rowCells?_eq_some hcells
      obtain ⟨hhere, hsame⟩ := mergeRow_of_held hheld
      obtain ⟨hfailure, hrest⟩ := ih hrows
      rw [mergeColumns]
      simp only [hcells, hhere, hfailure, true_and]
      rw [List.cons.injEq, List.forall_mem_cons, hrest, SteadyRow, children, ← hsame]
      refine and_congr_left fun _ => ?_
      simp [putChildren]

/-! ## Columns -/

/-- Whether the cells of a row are settled under those of the row above. -/
def HeldUnder (above cells : List Node) : Prop :=
  ∀ (i : Nat) (cell : Node), cells[i]? = some cell → HeldUp above[i]? cell

theorem heldUnder_nil (above : List Node) : HeldUnder above [] := by
  intro i cell hcell
  cases hcell

theorem heldUnder_cons_iff {above cells : List Node} {cell : Node} :
    HeldUnder above (cell :: cells) ↔ HeldUp above.head? cell ∧ HeldUnder above.tail cells := by
  constructor
  · intro h
    refine ⟨?_, fun i cell' hcell' => ?_⟩
    · rw [List.head?_eq_getElem?]
      exact h 0 cell rfl
    · rw [List.getElem?_tail]
      exact h (i + 1) cell' hcell'
  · rintro ⟨hhead, htail⟩ i cell' hcell'
    cases i with
    | zero =>
        cases hcell'
        rwa [← List.head?_eq_getElem?]
    | succ i =>
        have htail := htail i cell' hcell'
        rwa [List.getElem?_tail] at htail

theorem HeldUnder.grown {above above' cells cells' : List Node} (h : HeldUnder above cells)
    (habove : List.Forall₂ Grown above above') (hcells : List.Forall₂ Grown cells cells') :
    HeldUnder above' cells' := by
  induction hcells generalizing above above' with
  | nil => exact heldUnder_nil above'
  | cons hcell hrest ih =>
      rw [heldUnder_cons_iff] at h ⊢
      cases habove with
      | nil => exact ⟨h.1.grown .nil hcell, ih h.2 .nil⟩
      | cons hhead htail => exact ⟨h.1.grown (.cons hhead .nil) hcell, ih h.2 htail⟩

theorem held_of_mergeRowUp {above cells : List Node}
    (h : (mergeRowUp above cells).failure = none) :
    HeldUnder (mergeRowUp above cells).value.1 (mergeRowUp above cells).value.2 := by
  induction cells generalizing above with
  | nil => exact heldUnder_nil above
  | cons cell cells ih =>
      rw [mergeRowUp] at h ⊢
      cases hmerge : mergeUp above.head? cell with
      | error f => simp [hmerge] at h
      | ok merge =>
          obtain ⟨top, cell', merged⟩ := merge
          simp only [hmerge] at h ⊢
          have htop := (mergeUp_grown hmerge).1
          have hrest := (mergeRowUp_grown above.tail cells).1
          rw [heldUnder_cons_iff]
          cases above with
          | nil =>
              -- there is no row above here any more, and merging brings none in
              cases top with
              | none =>
                  have hheld := ih h
                  rw [List.tail_nil, List.forall₂_nil_left_iff] at hrest
                  rw [List.tail_nil, hrest] at hheld ⊢
                  exact ⟨heldUp_of_mergeUp hmerge, hheld⟩
              | some top => cases htop
          | cons a above =>
              cases top with
              | none => cases htop
              | some top => exact ⟨heldUp_of_mergeUp hmerge, ih h⟩

theorem mergeRowUp_of_held {above cells : List Node} (h : HeldUnder above cells) :
    (mergeRowUp above cells).failure = none ∧
      (mergeRowUp above cells).value = (above, cells) := by
  induction cells generalizing above with
  | nil => exact ⟨rfl, rfl⟩
  | cons cell cells ih =>
      rw [heldUnder_cons_iff] at h
      obtain ⟨hfailure, hvalue⟩ := ih h.2
      rw [mergeRowUp, mergeUp_of_held h.1]
      simp only [hfailure, hvalue, true_and]
      cases above <;> rfl

/-- Whether a row is settled under the one above. -/
def HeldBelow (row below : Node) : Prop :=
  ∃ above cells, rowCells? row = some above ∧ rowCells? below = some cells ∧
    HeldUnder above cells

theorem HeldBelow.grown {row row' below below' : Node} (h : HeldBelow row below)
    (hrow : Grown row row') (hbelow : Grown below below') : HeldBelow row' below' := by
  obtain ⟨above, cells, habove, hcells, hheld⟩ := h
  obtain ⟨above', habove', hgrown⟩ := rowCells?_of_grown hrow habove
  obtain ⟨cells', hcells', hgrown'⟩ := rowCells?_of_grown hbelow hcells
  exact ⟨above', cells', habove', hcells', hheld.grown hgrown hgrown'⟩

/-- What merging the rows below left of the next row, and that the row above was
merged with it, if the rows as a whole were merged. -/
theorem exists_merge_of_mergeRows {row next : Node} {rows : List Node}
    (h : (mergeRows (row :: next :: rows)).failure = none) :
    (mergeRows (next :: rows)).failure = none ∧ ∃ below others above cells,
      (mergeRows (next :: rows)).value = below :: others ∧
      rowCells? row = some above ∧ rowCells? below = some cells ∧
      (mergeRowUp above cells).failure = none ∧
      (mergeRows (row :: next :: rows)).value =
        putChildren (mergeRowUp above cells).value.1 row ::
          putChildren (mergeRowUp above cells).value.2 below :: others := by
  obtain ⟨below, others, -, -, hvalue⟩ :=
    List.forall₂_cons_left_iff.1 (mergeRows_grown (next :: rows))
  rw [mergeRows] at h
  cases hfailure : (mergeRows (next :: rows)).failure with
  | some f => simp [hfailure] at h
  | none =>
      cases habove : rowCells? row with
      | none => simp [hfailure, hvalue, habove] at h
      | some above =>
          cases hcells : rowCells? below with
          | none => simp [hfailure, hvalue, habove, hcells] at h
          | some cells =>
              simp only [hfailure, hvalue, habove, hcells] at h
              refine ⟨rfl, below, others, above, cells, hvalue, rfl, hcells, h, ?_⟩
              rw [mergeRows]
              simp only [hfailure, hvalue, habove, hcells]

theorem held_of_mergeRows {rows : List Node} (h : (mergeRows rows).failure = none) :
    (mergeRows rows).value.IsChain HeldBelow := by
  induction rows with
  | nil => exact .nil
  | cons row rows ih =>
      cases rows with
      | nil => exact .singleton row
      | cons next rows =>
          obtain ⟨hfailure, below, others, above, cells, hrest, habove, hcells, hdone, hvalue⟩ :=
            exists_merge_of_mergeRows h
          have hheld := ih hfailure
          have hbelow := grown_putChildren hcells (mergeRowUp_grown above cells).2
          rw [hrest] at hheld
          rw [hvalue]
          refine .cons_cons ⟨_, _, ?_, ?_, held_of_mergeRowUp hdone⟩
            (isChain_of_grown HeldBelow.grown hheld (.cons hbelow (grown_all_refl others)))
          · obtain ⟨isHeader, m, rfl⟩ := rowCells?_eq_some habove
            rfl
          · obtain ⟨isHeader, m, rfl⟩ := rowCells?_eq_some hcells
            rfl

theorem mergeRows_of_held {rows : List Node} (h : rows.IsChain HeldBelow) :
    (mergeRows rows).failure = none ∧ (mergeRows rows).value = rows := by
  induction rows with
  | nil => exact ⟨rfl, rfl⟩
  | cons row rows ih =>
      cases rows with
      | nil => exact ⟨rfl, rfl⟩
      | cons below rows =>
          rw [List.isChain_cons_cons] at h
          obtain ⟨⟨above, cells, habove, hcells, hheld⟩, hrest⟩ := h
          obtain ⟨hfailure, hvalue⟩ := ih hrest
          obtain ⟨hdone, hsame⟩ := mergeRowUp_of_held hheld
          rw [mergeRows]
          simp only [hfailure, hvalue, habove, hcells, hdone, hsame, true_and]
          obtain ⟨isHeader, m, rfl⟩ := rowCells?_eq_some habove
          obtain ⟨isHeader', m', rfl⟩ := rowCells?_eq_some hcells
          rfl

/-! ## Tables -/

/-- Whether all cells of a table are settled. -/
structure HeldTable (rows : List Node) : Prop where
  along : ∀ row ∈ rows, HeldRow row
  up : rows.IsChain HeldBelow

theorem HeldTable.grown {rows rows' : List Node} (h : HeldTable rows)
    (hgrown : List.Forall₂ Grown rows rows') : HeldTable rows' :=
  ⟨heldRow_of_grown h.along hgrown, isChain_of_grown HeldBelow.grown h.up hgrown⟩

theorem mergeTable_of_ok {rows : List Node} (hcolumns : (mergeColumns rows).failure = none) :
    (mergeTable rows).1.failure = (mergeRows (mergeColumns rows).value).failure ∧
      (mergeTable rows).1.value = (mergeRows (mergeColumns rows).value).value := by
  rw [mergeTable]
  simp only [hcolumns]
  split <;> simp only [*, and_self]

theorem mergeColumns_of_mergeTable {rows : List Node} (h : (mergeTable rows).1.failure = none) :
    (mergeColumns rows).failure = none := by
  cases hcolumns : (mergeColumns rows).failure with
  | none => rfl
  | some f => simp [mergeTable, hcolumns] at h

/-- Merging a table settles its cells. -/
theorem held_of_mergeTable {rows : List Node} (h : (mergeTable rows).1.failure = none) :
    HeldTable (mergeTable rows).1.value := by
  have hcolumns := mergeColumns_of_mergeTable h
  obtain ⟨hfailure, hvalue⟩ := mergeTable_of_ok hcolumns
  rw [hvalue]
  -- the sweep up the columns only grows the rows that the first one settled
  exact ⟨heldRow_of_grown (held_of_mergeColumns hcolumns) (mergeRows_grown _),
    held_of_mergeRows (hfailure.symm.trans h)⟩

/-- Merging a settled table again succeeds, and leaves it as it is if no cell
regains its neighbour. -/
theorem mergeTable_of_held {rows : List Node} (h : HeldTable rows) :
    (mergeTable rows).1.failure = none ∧
      ((mergeTable rows).1.value = rows ↔ ∀ row ∈ rows, SteadyRow row) := by
  obtain ⟨hcolumns, hsame⟩ := mergeColumns_of_held h.along
  obtain ⟨hrows, hvalue⟩ := mergeRows_of_held (h.grown (mergeColumns_grown rows)).up
  obtain ⟨hfailure, hspans⟩ := mergeTable_of_ok hcolumns
  rw [hfailure, hspans, hvalue]
  exact ⟨hrows, hsame⟩

end TableSpans

end TypstPress
