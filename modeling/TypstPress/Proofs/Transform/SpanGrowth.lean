import Mathlib.Data.List.Chain
import Mathlib.Data.List.Forall2
import TypstPress.Proofs.Document.Preorder
import TypstPress.Transform.TableSpans

/-!
# Merging only ever grows

Whatever a table holds and wherever merging stops, a tree differs from what
merging makes of it in the spans of cells and in whether they are suppressed,
and in nothing else. Spans become no smaller, a suppressed cell stays so, and a
cell that becomes suppressed starts with a mark. `Grown` states this as an
order on trees: it is reflexive, transitive and antisymmetric, every step of
merging goes up in it (`apply_grown`), and it relates two trees place by place
(`Grown.exists_at`).

The first child of a cell is all that merging looks at, and growing keeps it
where it is a text. That is why the order can speak of marks at all: a cell has
the same mark before and after.
-/

namespace TypstPress

open Node

namespace TableSpans

/-- Whether a content starts with one of the marks. -/
def isMarked (cs : List Node) : Bool := startsWithMark '<' cs || startsWithMark '^' cs

/-- What merging makes of a kind of branch. -/
inductive KindGrown (marked : Bool) : Branch → Branch → Prop where
  | refl (k : Branch) : KindGrown marked k k
  | cell {colspan colspan' rowspan rowspan' : Nat} {suppressed suppressed' : Bool}
      {alignment : Option String} (hcolspan : colspan ≤ colspan') (hrowspan : rowspan ≤ rowspan')
      (hsuppressed : suppressed' = suppressed ∨ marked = true ∧ suppressed' = true) :
      KindGrown marked (.tableCell colspan rowspan suppressed alignment)
        (.tableCell colspan' rowspan' suppressed' alignment)

/-- What merging makes of a tree. -/
inductive Grown : Node → Node → Prop where
  | leaf (l : Leaf) (m : Metadata) : Grown (.leaf l m) (.leaf l m)
  | branch {k k' : Branch} {cs cs' : List Node} {m : Metadata}
      (hkind : KindGrown (isMarked cs) k k') (hchildren : List.Forall₂ Grown cs cs') :
      Grown (.branch k cs m) (.branch k' cs' m)

/-! ## Growing is an order -/

theorem startsWithMark_of_grown {mark : Char} {cs cs' : List Node}
    (h : List.Forall₂ Grown cs cs') : startsWithMark mark cs' = startsWithMark mark cs := by
  cases h with
  | nil => rfl
  | cons hfirst hrest =>
      cases hfirst with
      | leaf l m => cases l <;> rfl
      | branch hkind hchildren => rfl

theorem isMarked_of_grown {cs cs' : List Node} (h : List.Forall₂ Grown cs cs') :
    isMarked cs' = isMarked cs := by
  rw [isMarked, isMarked, startsWithMark_of_grown h, startsWithMark_of_grown h]

theorem Grown.refl (n : Node) : Grown n n := by
  induction n using Node.induction with
  | leaf l m => exact .leaf l m
  | branch k cs m ih => exact .branch (.refl k) (List.forall₂_same.2 ih)

theorem grown_all_refl (ns : List Node) : List.Forall₂ Grown ns ns :=
  List.forall₂_same.2 fun n _ => Grown.refl n

theorem KindGrown.trans {marked : Bool} {k k' k'' : Branch} (h : KindGrown marked k k')
    (h' : KindGrown marked k' k'') : KindGrown marked k k'' := by
  cases h with
  | refl => exact h'
  | cell hcolspan hrowspan hsuppressed =>
      cases h' with
      | refl => exact .cell hcolspan hrowspan hsuppressed
      | cell hcolspan' hrowspan' hsuppressed' =>
          refine .cell (Nat.le_trans hcolspan hcolspan') (Nat.le_trans hrowspan hrowspan') ?_
          rcases hsuppressed' with rfl | hsuppressed'
          · exact hsuppressed
          · exact .inr hsuppressed'

theorem KindGrown.antisymm {marked : Bool} {k k' : Branch} (h : KindGrown marked k k')
    (h' : KindGrown marked k' k) : k = k' := by
  cases h with
  | refl => rfl
  | cell hcolspan hrowspan hsuppressed =>
      cases h' with
      | refl => rfl
      | cell hcolspan' hrowspan' hsuppressed' =>
          obtain rfl := Nat.le_antisymm hcolspan hcolspan'
          obtain rfl := Nat.le_antisymm hrowspan hrowspan'
          rcases hsuppressed with rfl | ⟨-, rfl⟩
          · rfl
          · rcases hsuppressed' with rfl | ⟨-, rfl⟩
            · rfl
            · rfl

theorem forall₂_trans {ns ns' ns'' : List Node}
    (h : ∀ n ∈ ns, ∀ {n' n''}, Grown n n' → Grown n' n'' → Grown n n'')
    (hfirst : List.Forall₂ Grown ns ns') (hsecond : List.Forall₂ Grown ns' ns'') :
    List.Forall₂ Grown ns ns'' := by
  induction hfirst generalizing ns'' with
  | nil => exact hsecond
  | cons hn hns ih =>
      rw [List.forall_mem_cons] at h
      cases hsecond with
      | cons hn' hns' => exact .cons (h.1 hn hn') (ih h.2 hns')

theorem forall₂_antisymm {ns ns' : List Node}
    (h : ∀ n ∈ ns, ∀ {n'}, Grown n n' → Grown n' n → n = n')
    (hup : List.Forall₂ Grown ns ns') (hdown : List.Forall₂ Grown ns' ns) : ns = ns' := by
  induction hup with
  | nil => rfl
  | cons hn hns ih =>
      rw [List.forall_mem_cons] at h
      cases hdown with
      | cons hn' hns' => rw [h.1 hn hn', ih h.2 hns']

theorem Grown.trans {n n' n'' : Node} (h : Grown n n') (h' : Grown n' n'') : Grown n n'' := by
  induction n using Node.induction generalizing n' n'' with
  | leaf l m =>
      cases h
      exact h'
  | branch k cs m ih =>
      cases h with
      | branch hkind hchildren =>
          cases h' with
          | branch hkind' hchildren' =>
              rw [isMarked_of_grown hchildren] at hkind'
              exact .branch (hkind.trans hkind')
                (forall₂_trans (fun c hc => ih c hc) hchildren hchildren')

theorem grown_all_trans {ns ns' ns'' : List Node} (h : List.Forall₂ Grown ns ns')
    (h' : List.Forall₂ Grown ns' ns'') : List.Forall₂ Grown ns ns'' :=
  forall₂_trans (fun _ _ _ _ => Grown.trans) h h'

theorem Grown.antisymm {n n' : Node} (h : Grown n n') (h' : Grown n' n) : n = n' := by
  induction n using Node.induction generalizing n' with
  | leaf l m =>
      cases h
      rfl
  | branch k cs m ih =>
      cases h with
      | branch hkind hchildren =>
          cases h' with
          | branch hkind' hchildren' =>
              rw [isMarked_of_grown hchildren] at hkind'
              rw [hkind.antisymm hkind',
                forall₂_antisymm (fun c hc => ih c hc) hchildren hchildren']

theorem grown_all_antisymm {ns ns' : List Node} (h : List.Forall₂ Grown ns ns')
    (h' : List.Forall₂ Grown ns' ns) : ns = ns' :=
  forall₂_antisymm (fun _ _ _ => Grown.antisymm) h h'

theorem exists_getElem?_of_grown {ns ns' : List Node} {n' : Node} {i : Nat}
    (h : List.Forall₂ Grown ns ns') (hn' : ns'[i]? = some n') :
    ∃ n, ns[i]? = some n ∧ Grown n n' := by
  induction h generalizing i with
  | nil => cases hn'
  | cons hfirst hrest ih =>
      cases i with
      | zero =>
          cases hn'
          exact ⟨_, rfl, hfirst⟩
      | succ i => exact ih hn'

theorem exists_mem_of_grown {ns ns' : List Node} (h : List.Forall₂ Grown ns ns') {n' : Node}
    (hn' : n' ∈ ns') : ∃ n ∈ ns, Grown n n' := by
  obtain ⟨i, hi⟩ := List.getElem?_of_mem hn'
  obtain ⟨n, hn, hgrown⟩ := exists_getElem?_of_grown h hi
  exact ⟨n, List.mem_of_getElem? hn, hgrown⟩

/-- What growing keeps of two nodes it keeps of the neighbours in a list. -/
theorem isChain_of_grown {R : Node → Node → Prop}
    (hR : ∀ {n n' next next'}, R n next → Grown n n' → Grown next next' → R n' next')
    {ns ns' : List Node} (h : ns.IsChain R) (hgrown : List.Forall₂ Grown ns ns') :
    ns'.IsChain R := by
  induction hgrown with
  | nil => exact .nil
  | cons hfirst hrest ih =>
      cases hrest with
      | nil => exact .singleton _
      | cons hnext hrest' =>
          rw [List.isChain_cons_cons] at h
          exact .cons_cons (hR h.1 hfirst hnext) (ih h.2)

/-- The tree as it grew has a node wherever the tree had one, and that node is
what became of it. -/
theorem Grown.exists_at {n n' x' : Node} (h : Grown n n') {path : List Nat}
    (hx' : n'.at? path = some x') : ∃ x, n.at? path = some x ∧ Grown x x' := by
  induction path generalizing n n' with
  | nil =>
      cases hx'
      exact ⟨n, rfl, h⟩
  | cons i path ih =>
      cases h with
      | leaf l m => cases hx'
      | branch hkind hchildren =>
          rw [at?] at hx'
          split at hx'
          · next child' hchild' =>
              obtain ⟨child, hchild, hgrown⟩ := exists_getElem?_of_grown hchildren hchild'
              obtain ⟨x, hx, hx'⟩ := ih hgrown hx'
              refine ⟨x, ?_, hx'⟩
              rw [at?, children, hchild]
              exact hx
          · cases hx'

/-! ## Each step grows -/

theorem mergeLeft_grown {left cell left' cell' : Node} {merged : Bool}
    (h : mergeLeft left cell = .ok (left', cell', merged)) :
    Grown left left' ∧ Grown cell cell' := by
  unfold mergeLeft at h
  split at h
  · cases h
  · cases h
    exact ⟨.refl left, .refl cell⟩
  · next hmark =>
      split at h
      · next colspan rowspan suppressed alignment cs m =>
          split at h
          · cases h
            exact ⟨.refl _, .refl _⟩
          · split at h
            · next colspan' rowspan' suppressed' alignment' cs' m' =>
                cases h
                have hmarked : isMarked cs' = true := by
                  simp only [isMark, contentOf, Except.ok.injEq] at hmark
                  rw [isMarked, hmark, Bool.true_or]
                exact ⟨.branch (.cell (Nat.le_add_right _ _) (Nat.le_refl _) (.inl rfl))
                    (grown_all_refl cs),
                  .branch (.cell (Nat.le_refl _) (Nat.le_refl _) (.inr ⟨hmarked, rfl⟩))
                    (grown_all_refl cs')⟩
            · cases h
      · cases h

theorem mergeRow_grown (cells : List Node) : List.Forall₂ Grown cells (mergeRow cells).value := by
  induction cells with
  | nil => exact .nil
  | cons left cells ih =>
      rw [mergeRow]
      split
      · next cell others hfailure hvalue =>
          rw [hvalue] at ih
          cases ih with
          | cons hcell hothers =>
              split
              · next hmerge =>
                  obtain ⟨hleft, hcell'⟩ := mergeLeft_grown hmerge
                  exact .cons hleft (.cons (hcell.trans hcell') hothers)
              · rw [hvalue]
                exact .cons (.refl left) (.cons hcell hothers)
      · exact .cons (.refl left) ih

theorem grown_putChildren {row : Node} {cells cells' : List Node}
    (h : rowCells? row = some cells) (hcells : List.Forall₂ Grown cells cells') :
    Grown row (putChildren cells' row) := by
  unfold rowCells? at h
  split at h
  · cases h
    exact .branch (.refl _) hcells
  · cases h

theorem mergeColumns_grown (rows : List Node) :
    List.Forall₂ Grown rows (mergeColumns rows).value := by
  induction rows with
  | nil => exact .nil
  | cons row rows ih =>
      rw [mergeColumns]
      split
      · exact grown_all_refl _
      · next cells hcells =>
          have hrow := grown_putChildren hcells (mergeRow_grown cells)
          dsimp only
          split
          · exact .cons hrow (grown_all_refl rows)
          · exact .cons hrow ih

theorem mergeUp_grown {above? top : Option Node} {cell cell' : Node} {merged : Bool}
    (h : mergeUp above? cell = .ok (top, cell', merged)) :
    List.Forall₂ Grown above?.toList top.toList ∧ Grown cell cell' := by
  unfold mergeUp at h
  split at h
  · next colspan rowspan suppressed alignment cs m =>
      split at h
      · cases h
        exact ⟨grown_all_refl _, .refl _⟩
      · next hmark =>
          split at h
          · cases h
            exact ⟨grown_all_refl _, .refl _⟩
          · next colspan' rowspan' suppressed' alignment' cs' m' =>
              split at h
              · cases h
                exact ⟨grown_all_refl _, .refl _⟩
              · cases h
                have hmarked : isMarked cs = true := by
                  cases hstart : startsWithMark '^' cs with
                  | true => rw [isMarked, hstart, Bool.or_true]
                  | false => simp [hstart] at hmark
                exact ⟨.cons (.branch (.cell (Nat.le_refl _) (Nat.le_add_right _ _) (.inl rfl))
                    (grown_all_refl cs')) .nil,
                  .branch (.cell (Nat.le_refl _) (Nat.le_refl _) (.inr ⟨hmarked, rfl⟩))
                    (grown_all_refl cs)⟩
          · cases h
  · cases h

theorem mergeRowUp_grown (above cells : List Node) :
    List.Forall₂ Grown above (mergeRowUp above cells).value.1 ∧
      List.Forall₂ Grown cells (mergeRowUp above cells).value.2 := by
  induction cells generalizing above with
  | nil => exact ⟨grown_all_refl above, .nil⟩
  | cons cell cells ih =>
      rw [mergeRowUp]
      split
      · exact ⟨grown_all_refl above, grown_all_refl _⟩
      · next top cell' merged hmerge =>
          obtain ⟨htop, hcell⟩ := mergeUp_grown hmerge
          obtain ⟨habove, hcells⟩ := ih above.tail
          refine ⟨?_, .cons hcell hcells⟩
          have hsplit : above = above.head?.toList ++ above.tail := by
            cases above <;> rfl
          conv_lhs => rw [hsplit]
          exact List.rel_append htop habove

theorem mergeRows_grown (rows : List Node) :
    List.Forall₂ Grown rows (mergeRows rows).value := by
  induction rows with
  | nil => exact .nil
  | cons row rows ih =>
      rw [mergeRows]
      dsimp only
      split
      · next below others hfailure hvalue =>
          split
          · next above cells habove hcells =>
              obtain ⟨hupper, hlower⟩ := mergeRowUp_grown above cells
              rw [hvalue] at ih
              cases ih with
              | cons hbelow hothers =>
                  exact .cons (grown_putChildren habove hupper)
                    (.cons (hbelow.trans (grown_putChildren hcells hlower)) hothers)
          · exact .cons (.refl row) ih
          · exact .cons (.refl row) ih
      · exact .cons (.refl row) ih

theorem mergeTable_grown (rows : List Node) :
    List.Forall₂ Grown rows (mergeTable rows).1.value := by
  have hcolumns := mergeColumns_grown rows
  have hspans := grown_all_trans hcolumns (mergeRows_grown (mergeColumns rows).value)
  rw [mergeTable]
  dsimp only
  split
  · exact hcolumns
  · split
    · exact hspans
    · exact hspans

mutual

theorem mergeTree_grown (n : Node) : Grown n (mergeTree n).tree := by
  match n with
  | .leaf l m =>
      rw [mergeTree]
      exact .leaf l m
  | .branch k rows m =>
      have hbelow := mergeTrees_grown rows
      unfold mergeTree
      split
      · dsimp only
        split
        · exact .branch (.refl _) (mergeTable_grown rows)
        · exact .branch (.refl _) (grown_all_trans hbelow (mergeTable_grown _))
      · exact .branch (.refl _) hbelow

theorem mergeTrees_grown (ns : List Node) : List.Forall₂ Grown ns (mergeTrees ns).trees := by
  match ns with
  | [] =>
      rw [mergeTrees]
      exact .nil
  | n :: ns =>
      rw [mergeTrees]
      dsimp only
      split
      · exact .cons (mergeTree_grown n) (grown_all_refl ns)
      · exact .cons (mergeTree_grown n) (mergeTrees_grown ns)

end

/-- Merging the cells of a document changes nothing but the spans of cells,
which grow, and whether a marked cell is suppressed. -/
theorem apply_grown (document : Node) : Grown document (apply document).tree :=
  mergeTree_grown document

end TableSpans

end TypstPress
