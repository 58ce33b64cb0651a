import TypstPress.Transform
import TypstPress.Proofs.Document.WellFormed
import TypstPress.Proofs.Transform.SpanForm

/-!
# Transforms keep documents well formed

Each transform can fail on a tree that somebody built by hand: an attribute
block cannot be removed from a list, a directive cannot be replaced in a table
row, and spans cannot be merged in what is not a table of cells. On a
well-formed document none of these can happen, because the children of a list,
a table or a row are never the texts and directives that would have to be
replaced there.

The rewritings are all shown to keep the kind of every node that they do not
replace, and to replace content by content. With that a rewritten list of
children is admitted where the old one was, and well-formedness goes through
by induction on the tree.
-/

namespace TypstPress

open Node

theorem Node.isDocument_kind (n : Node) : n.kind.isDocument = n.isDocument := by
  cases n with
  | leaf l m => rfl
  | branch k cs m => cases k <;> rfl

theorem isWellFormedDocument_of_kind_eq {n n' : Node} (h : n.isWellFormedDocument = true)
    (hkind : n'.kind = n.kind) (hwell : n'.isWellFormed = true) :
    n'.isWellFormedDocument = true := by
  rw [isWellFormedDocument, Bool.and_eq_true] at h ⊢
  exact ⟨by rw [← isDocument_kind, hkind, isDocument_kind, h.1], hwell⟩

/-- A child may give way to a well-formed tree of the same kind. -/
theorem allWellFormed_cons_of_kind_eq {k : Branch} {n n' : Node} {ns : List Node}
    (hadmits : k.admits n.kind = true) (hkind : n'.kind = n.kind)
    (hwell : n'.isWellFormed = true) (hns : allWellFormed k ns = true) :
    allWellFormed k (n' :: ns) = true := by
  rw [← hkind] at hadmits
  exact allWellFormed_cons.2 ⟨⟨hadmits, hwell⟩, hns⟩

/-- What lists, tables and rows admit is neither a leaf nor a directive. -/
theorem Branch.not_admits_leaf {k : Branch} (hk : k.acceptsChildren = false) (l : Leaf) :
    k.admits (.leaf l) = false := by
  cases k with
  | list | table | tableRow => rfl
  | _ => cases hk

theorem Branch.not_admits_leafDirective {k : Branch} (hk : k.acceptsChildren = false)
    (name : String) (attributes : Attributes) :
    k.admits (.branch (.leafDirective name attributes)) = false := by
  cases k with
  | list | table | tableRow => rfl
  | _ => cases hk

/-! ## Markup -/

theorem areContent_ofTypst (source : String) : AreContent [Node.ofTypst source] :=
  areContent_one rfl (isWellFormed_of_areContent rfl rfl areContent_leaf)

theorem insertPreamble_wellFormed (source : String) {document : Node}
    (h : document.isWellFormedDocument = true) :
    (insertPreamble source document).isWellFormedDocument = true := by
  rw [isWellFormedDocument, Bool.and_eq_true] at h
  obtain ⟨cs, m, rfl⟩ := eq_document h.1
  have hcs := (allWellFormed_iff_areContent rfl).1 (isWellFormed_branch.1 h.2).2
  rw [insertPreamble, isWellFormedDocument, Bool.and_eq_true]
  split
  · exact h
  · exact ⟨rfl, isWellFormed_of_areContent rfl rfl
      (areContent_append (areContent_ofTypst source) hcs)⟩

namespace DirectiveMarkup

variable (markup : List (String × String))

/-- Only content can be replaced by markup. -/
theorem acceptsChildren_of_markupFor? {k : Branch} {n : Node} {source : String}
    (hadmits : k.admits n.kind = true) (h : markupFor? markup n = some source) :
    k.acceptsChildren = true := by
  unfold markupFor? at h
  split at h
  · next name attributes cs m =>
      cases hk : k.acceptsChildren with
      | true => rfl
      | false =>
          rw [Node.kind, Branch.not_admits_leafDirective hk] at hadmits
          cases hadmits
  · cases h

theorem countMapped_eq_zero {k : Branch} (hk : k.acceptsChildren = false) {cs : List Node}
    (h : allWellFormed k cs = true) : countMapped markup cs = 0 := by
  rw [countMapped, List.countP_eq_zero]
  intro n hn hsome
  obtain ⟨source, hsource⟩ := Option.isSome_iff_exists.1 hsome
  have haccepts := acceptsChildren_of_markupFor? markup (allWellFormed_iff.1 h n hn).1 hsource
  rw [hk] at haccepts
  cases haccepts

mutual

theorem replaceBelow_wellFormed {n : Node} (h : n.isWellFormed = true) :
    (replaceBelow markup n).refusal = none ∧ (replaceBelow markup n).tree.kind = n.kind ∧
      (replaceBelow markup n).tree.isWellFormed = true := by
  match n with
  | .leaf l m =>
      rw [replaceBelow]
      exact ⟨rfl, rfl, isWellFormed_leaf⟩
  | .branch k cs m =>
      rw [isWellFormed_branch] at h
      obtain ⟨hrefusal, hchildren⟩ := replaceAmong_wellFormed h.2
      have hfree : (countMapped markup cs != 0 && !k.acceptsChildren) = false := by
        cases hk : k.acceptsChildren with
        | true => rw [Bool.not_true, Bool.and_false]
        | false =>
            rw [countMapped_eq_zero markup hk h.2]
            rfl
      rw [replaceBelow]
      simp only [hfree]
      exact ⟨hrefusal, rfl, isWellFormed_branch.2 ⟨h.1, hchildren⟩⟩

theorem replaceAmong_wellFormed {k : Branch} {ns : List Node} (h : allWellFormed k ns = true) :
    (replaceAmong markup ns).2.2 = none ∧
      allWellFormed k (replaceAmong markup ns).1 = true := by
  match ns with
  | [] =>
      rw [replaceAmong]
      exact ⟨rfl, allWellFormed_nil⟩
  | n :: ns =>
      obtain ⟨⟨hadmits, hwell⟩, hrest⟩ := allWellFormed_cons.1 h
      obtain ⟨hrefusal, hns⟩ := replaceAmong_wellFormed hrest
      rw [replaceAmong]
      split
      · next source hsource =>
          have hk := acceptsChildren_of_markupFor? markup hadmits hsource
          have htypst := areContent_ofTypst source _ List.mem_cons_self
          refine ⟨hrefusal, allWellFormed_cons.2 ⟨?_, hns⟩⟩
          rw [Branch.admits_eq hk]
          exact htypst
      · obtain ⟨hnone, hkind, hfirst⟩ := replaceBelow_wellFormed hwell
        simp only [hnone]
        exact ⟨hrefusal, allWellFormed_cons_of_kind_eq hadmits hkind hfirst hns⟩

end

theorem apply_wellFormed {document : Node} (h : document.isWellFormedDocument = true) :
    (apply markup document).failure = none ∧
      (apply markup document).tree.isWellFormedDocument = true := by
  have hwell := (Bool.and_eq_true_iff.1 h).2
  obtain ⟨hrefusal, hkind, htree⟩ := replaceBelow_wellFormed markup hwell
  rw [apply]
  simp only [hrefusal, true_and]
  exact isWellFormedDocument_of_kind_eq h hkind htree

end DirectiveMarkup

/-! ## Attribute blocks -/

namespace ImageAttributes

theorem leaf_of_splitText? {n n' : Node} {attributes : Attributes} {remaining : String}
    (h : splitText? n = some (attributes, remaining, n')) :
    (∃ l m, n = .leaf l m) ∧ ∃ l m, n' = .leaf l m := by
  unfold splitText? at h
  split at h
  · next content m =>
      rw [Option.map_eq_some_iff] at h
      obtain ⟨r, -, hr⟩ := h
      cases hr
      exact ⟨⟨_, _, rfl⟩, _, _, rfl⟩
  · cases h

theorem leaf_of_addTo? {n n' : Node} {attributes : Attributes}
    (h : addTo? attributes n = some n') : ∃ l m, n' = .leaf l m := by
  unfold addTo? at h
  split at h
  · injection h with h
    exact ⟨_, _, h.symm⟩
  · injection h with h
    exact ⟨_, _, h.symm⟩
  · cases h

/-- What can become of a child: it is left as it was, or it is a leaf put for
another one. -/
def Child.ComesFrom (cs : List Node) (child : Child) : Prop :=
  (child.node ∈ cs ∧ child.usedUp = false) ∨
    (∃ l m, child.node = .leaf l m) ∧ ∃ l m, Node.leaf l m ∈ cs

theorem Child.ComesFrom.cons {cs : List Node} {child : Child} (n : Node)
    (h : child.ComesFrom cs) : child.ComesFrom (n :: cs) := by
  rcases h with ⟨hmem, hkept⟩ | ⟨hchild, l, m, hleaf⟩
  · exact .inl ⟨List.mem_cons_of_mem n hmem, hkept⟩
  · exact .inr ⟨hchild, l, m, List.mem_cons_of_mem n hleaf⟩

theorem Child.comesFrom_head (n : Node) (cs : List Node) :
    Child.ComesFrom (n :: cs) { node := n } :=
  .inl ⟨List.mem_cons_self, rfl⟩

theorem comesFrom_of_mem {cs : List Node} {child : Child} (h : child ∈ (moveBlocks cs).1) :
    child.ComesFrom cs := by
  induction cs using moveBlocks.induct with
  | case1 => cases h
  | case2 n =>
      rw [moveBlocks, List.mem_singleton] at h
      rw [h]
      exact Child.comesFrom_head n []
  | case3 n next rest attributes remaining shortened hsplit image hadd children moved hmoved ih =>
      obtain ⟨⟨l, m, rfl⟩, hshortened⟩ := leaf_of_splitText? hsplit
      have hleaf : ∃ l' m', Node.leaf l' m' ∈ n :: .leaf l m :: rest :=
        ⟨l, m, List.mem_cons_of_mem _ List.mem_cons_self⟩
      rw [hmoved] at ih
      simp only [moveBlocks, hsplit, hadd, hmoved, List.mem_cons] at h
      rcases h with rfl | rfl | hchild
      · exact .inr ⟨leaf_of_addTo? hadd, hleaf⟩
      · exact .inr ⟨hshortened, hleaf⟩
      · exact ((ih hchild).cons (.leaf l m)).cons n
  | case4 n next rest attributes remaining shortened hsplit hadd children moved hmoved ih =>
      rw [hmoved] at ih
      simp only [moveBlocks, hsplit, hadd, hmoved, List.mem_cons] at h
      rcases h with rfl | hchild
      · exact Child.comesFrom_head n (next :: rest)
      · exact (ih hchild).cons n
  | case5 n next rest hsplit children moved hmoved ih =>
      rw [hmoved] at ih
      simp only [moveBlocks, hsplit, hmoved, List.mem_cons] at h
      rcases h with rfl | hchild
      · exact Child.comesFrom_head n (next :: rest)
      · exact (ih hchild).cons n

theorem areContent_moveBlocks {cs : List Node} (h : AreContent cs) :
    AreContent ((moveBlocks cs).1.map (·.node)) := by
  intro n hn
  obtain ⟨child, hchild, rfl⟩ := List.mem_map.1 hn
  rcases comesFrom_of_mem hchild with ⟨hmem, -⟩ | ⟨⟨l, m, hleaf⟩, -⟩
  · exact h _ hmem
  · rw [hleaf]
    exact ⟨rfl, isWellFormed_leaf⟩

/-- Children that are not free to choose are all left as they were. -/
theorem mem_of_mem_moveBlocks {k : Branch} (hk : k.acceptsChildren = false) {cs : List Node}
    (h : allWellFormed k cs = true) {child : Child} (hchild : child ∈ (moveBlocks cs).1) :
    child.node ∈ cs ∧ child.usedUp = false := by
  rcases comesFrom_of_mem hchild with hkept | ⟨-, l, m, hleaf⟩
  · exact hkept
  · have hadmits := (allWellFormed_iff.1 h _ hleaf).1
    rw [Node.kind, Branch.not_admits_leaf hk] at hadmits
    cases hadmits

theorem any_usedUp_eq_false {k : Branch} (hk : k.acceptsChildren = false) {cs : List Node}
    (h : allWellFormed k cs = true) : (moveBlocks cs).1.any (·.usedUp) = false := by
  rw [List.any_eq_false]
  intro child hchild
  rw [(mem_of_mem_moveBlocks hk h hchild).2]
  exact Bool.false_ne_true

theorem attach_wellFormed {k : Branch} {cs : List Node} (h : allWellFormed k cs = true)
    (m : Metadata) :
    (attach (.branch k cs m)).refusal = none ∧
      ∃ cs', (attach (.branch k cs m)).tree = .branch k cs' m ∧ allWellFormed k cs' = true := by
  cases hk : k.acceptsChildren with
  | true =>
      have hmoved := areContent_moveBlocks ((allWellFormed_iff_areContent hk).1 h)
      have hfiltered : AreContent (((moveBlocks cs).1.filter (!·.usedUp)).map (·.node)) :=
        fun n hn => hmoved n (List.map_subset _ List.filter_sublist.subset hn)
      simp only [attach, hk]
      split
      · exact ⟨rfl, _, rfl, (allWellFormed_iff_areContent hk).2 hfiltered⟩
      · exact ⟨rfl, _, rfl, (allWellFormed_iff_areContent hk).2 hmoved⟩
  | false =>
      simp only [attach, any_usedUp_eq_false hk h]
      refine ⟨rfl, _, rfl, allWellFormed_iff.2 fun n hn => ?_⟩
      obtain ⟨child, hchild, rfl⟩ := List.mem_map.1 hn
      exact allWellFormed_iff.1 h _ (mem_of_mem_moveBlocks hk h hchild).1

mutual

theorem attachTree_wellFormed {n : Node} (h : n.isWellFormed = true) :
    (attachTree n).refusal = none ∧ (attachTree n).tree.kind = n.kind ∧
      (attachTree n).tree.isWellFormed = true := by
  match n with
  | .leaf l m =>
      rw [attachTree]
      exact ⟨rfl, rfl, isWellFormed_leaf⟩
  | .branch k cs m =>
      rw [isWellFormed_branch] at h
      obtain ⟨hrefusal, hbelow⟩ := attachTrees_wellFormed h.2
      -- the blocks of the node itself are moved again, around its finished children
      obtain ⟨-, cs', htree, hcs'⟩ := attach_wellFormed hbelow m
      rw [attachTree]
      simp only [(attach_wellFormed h.2 m).1]
      rw [htree]
      exact ⟨hrefusal, rfl, isWellFormed_branch.2 ⟨h.1, hcs'⟩⟩

theorem attachTrees_wellFormed {k : Branch} {ns : List Node} (h : allWellFormed k ns = true) :
    (attachTrees ns).2.2 = none ∧ allWellFormed k (attachTrees ns).1 = true := by
  match ns with
  | [] =>
      rw [attachTrees]
      exact ⟨rfl, allWellFormed_nil⟩
  | n :: ns =>
      obtain ⟨⟨hadmits, hwell⟩, hrest⟩ := allWellFormed_cons.1 h
      obtain ⟨hnone, hkind, hfirst⟩ := attachTree_wellFormed hwell
      obtain ⟨hrefusal, hns⟩ := attachTrees_wellFormed hrest
      rw [attachTrees]
      simp only [hnone]
      exact ⟨hrefusal, allWellFormed_cons_of_kind_eq hadmits hkind hfirst hns⟩

end

theorem apply_wellFormed {document : Node} (h : document.isWellFormedDocument = true) :
    (apply document).failure = none ∧ (apply document).tree.isWellFormedDocument = true := by
  have hwell := (Bool.and_eq_true_iff.1 h).2
  obtain ⟨hrefusal, hkind, htree⟩ := attachTree_wellFormed hwell
  rw [apply]
  simp only [hrefusal, true_and]
  exact isWellFormedDocument_of_kind_eq h hkind htree

end ImageAttributes

/-! ## Spans -/

namespace TableSpans

/-- What growing and suppressing keep holds of all that a chain leaves. -/
theorem Joining.forall_chain {α : Type} {J : Joining α} {P : α → Prop}
    (hgrow : ∀ k x, P x → P (J.grow k x)) (hsuppress : ∀ x, P x → P (J.suppress x))
    {xs : List α} (h : ∀ x ∈ xs, P x) : ∀ x ∈ J.chain xs, P x := by
  induction xs with
  | nil => exact h
  | cons x xs ih =>
      rw [List.forall_mem_cons] at h
      have hxs := ih h.2
      rw [chain]
      cases hchain : J.chain xs with
      | nil => exact List.forall_mem_cons.2 ⟨h.1, fun _ hmem => absurd hmem List.not_mem_nil⟩
      | cons y ys =>
          rw [hchain, List.forall_mem_cons] at hxs
          dsimp only
          rw [pair]
          split
          · exact List.forall_mem_cons.2 ⟨hgrow _ x h.1,
              List.forall_mem_cons.2 ⟨hsuppress y hxs.1, hxs.2⟩⟩
          · exact List.forall_mem_cons.2 ⟨h.1, List.forall_mem_cons.2 hxs⟩

/-- Whether all cells are well formed. -/
def AreCells (cells : List Cell) : Prop := ∀ c ∈ cells, c.node.isWellFormed = true

theorem Cell.isWellFormed_node {c : Cell} :
    c.node.isWellFormed = true ↔
      (1 ≤ c.colspan ∧ 1 ≤ c.rowspan ∧ isAlignment c.alignment = true) ∧
        AreContent c.content := by
  rw [node, isWellFormed_branch, allWellFormed_iff_areContent rfl, Branch.isSound,
    Bool.and_eq_true, Bool.and_eq_true, decide_eq_true_iff, decide_eq_true_iff,
    and_assoc (c := isAlignment c.alignment = true)]

theorem Cell.widen_wellFormed (k : Nat) {c : Cell} (h : c.node.isWellFormed = true) :
    (c.widen k).node.isWellFormed = true := by
  obtain ⟨⟨hcolspan, hrest⟩, hcontent⟩ := isWellFormed_node.1 h
  exact isWellFormed_node.2 ⟨⟨Nat.le_add_right_of_le hcolspan, hrest⟩, hcontent⟩

theorem Cell.heighten_wellFormed (k : Nat) {c : Cell} (h : c.node.isWellFormed = true) :
    (c.heighten k).node.isWellFormed = true := by
  obtain ⟨⟨hcolspan, hrowspan, halignment⟩, hcontent⟩ := isWellFormed_node.1 h
  exact isWellFormed_node.2
    ⟨⟨hcolspan, Nat.le_add_right_of_le hrowspan, halignment⟩, hcontent⟩

theorem Cell.suppress_wellFormed {c : Cell} (h : c.node.isWellFormed = true) :
    c.suppress.node.isWellFormed = true :=
  isWellFormed_node.2 ((isWellFormed_node (c := c)).1 h)

theorem areCells_chain {cells : List Cell} (h : AreCells cells) :
    AreCells (leftward.chain cells) :=
  Joining.forall_chain (fun k _ => Cell.widen_wellFormed k)
    (fun _ => Cell.suppress_wellFormed) h

theorem areCells_joinUp {above cells : List Cell} (habove : AreCells above)
    (hcells : AreCells cells) :
    AreCells (joinUp above cells).1 ∧ AreCells (joinUp above cells).2 := by
  induction above generalizing cells with
  | nil => cases cells <;> exact ⟨habove, hcells⟩
  | cons a above ih =>
      cases cells with
      | nil => exact ⟨habove, hcells⟩
      | cons c cells =>
          rw [AreCells, List.forall_mem_cons] at habove hcells
          obtain ⟨hupper, hlower⟩ := ih habove.2 hcells.2
          rw [joinUp]
          split
          · exact ⟨List.forall_mem_cons.2 ⟨Cell.heighten_wellFormed _ habove.1, hupper⟩,
              List.forall_mem_cons.2 ⟨Cell.suppress_wellFormed hcells.1, hlower⟩⟩
          · exact ⟨List.forall_mem_cons.2 ⟨habove.1, hupper⟩,
              List.forall_mem_cons.2 ⟨hcells.1, hlower⟩⟩

/-- Whether all cells of the rows are well formed. -/
def AreRows (rows : List Row) : Prop := ∀ row ∈ rows, AreCells row.cells

theorem areRows_joined {rows : List Row} (h : AreRows rows) : AreRows (rows.map Row.joined) :=
  List.forall_mem_map.2 fun row hrow => areCells_chain (h row hrow)

theorem areRows_joinRows {rows : List Row} (h : AreRows rows) : AreRows (joinRows rows) := by
  induction rows with
  | nil => exact h
  | cons row rows ih =>
      rw [AreRows, List.forall_mem_cons] at h
      have hrows := ih h.2
      rw [joinRows]
      cases hjoin : joinRows rows with
      | nil => exact List.forall_mem_cons.2 ⟨h.1, fun _ hmem => absurd hmem List.not_mem_nil⟩
      | cons below others =>
          rw [hjoin, AreRows, List.forall_mem_cons] at hrows
          obtain ⟨hupper, hlower⟩ := areCells_joinUp h.1 hrows.1
          exact List.forall_mem_cons.2 ⟨hupper, List.forall_mem_cons.2 ⟨hlower, hrows.2⟩⟩

theorem exists_cells {isHeader : Bool} {ns : List Node}
    (h : allWellFormed (.tableRow isHeader) ns = true) :
    ∃ cells : List Cell, ns = cells.map Cell.node ∧ AreCells cells := by
  induction ns with
  | nil => exact ⟨[], rfl, fun _ hc => absurd hc List.not_mem_nil⟩
  | cons n ns ih =>
      obtain ⟨⟨hadmits, hwell⟩, hrest⟩ := allWellFormed_cons.1 h
      obtain ⟨cells, rfl, hcells⟩ := ih hrest
      obtain ⟨colspan, rowspan, suppressed, alignment, cs, m, rfl⟩ := eq_cell hadmits
      exact ⟨⟨colspan, rowspan, suppressed, alignment, cs, m⟩ :: cells, rfl,
        List.forall_mem_cons.2 ⟨hwell, hcells⟩⟩

theorem exists_rows {headed : Bool} {alignments : List (Option String)} {ns : List Node}
    (h : allWellFormed (.table headed alignments) ns = true) :
    ∃ rows : List Row, ns = rows.map Row.node ∧ AreRows rows := by
  induction ns with
  | nil => exact ⟨[], rfl, fun _ hrow => absurd hrow List.not_mem_nil⟩
  | cons n ns ih =>
      obtain ⟨⟨hadmits, hwell⟩, hrest⟩ := allWellFormed_cons.1 h
      obtain ⟨rows, rfl, hrows⟩ := ih hrest
      obtain ⟨isHeader, cs, m, rfl⟩ := eq_row hadmits
      obtain ⟨cells, rfl, hcells⟩ := exists_cells (isWellFormed_branch.1 hwell).2
      exact ⟨⟨isHeader, cells, m⟩ :: rows, rfl, List.forall_mem_cons.2 ⟨hcells, hrows⟩⟩

theorem Row.isWellFormed_node {row : Row} (h : AreCells row.cells) :
    row.node.isWellFormed = true :=
  isWellFormed_branch.2
    ⟨rfl, allWellFormed_iff.2 (List.forall_mem_map.2 fun c hc => ⟨rfl, h c hc⟩)⟩

theorem allWellFormed_rows {rows : List Row} (h : AreRows rows) (headed : Bool)
    (alignments : List (Option String)) :
    allWellFormed (.table headed alignments) (rows.map Row.node) = true :=
  allWellFormed_iff.2
    (List.forall_mem_map.2 fun row hrow => ⟨rfl, Row.isWellFormed_node (h row hrow)⟩)

theorem mergeTable_wellFormed {headed : Bool} {alignments : List (Option String)}
    {ns : List Node} (h : allWellFormed (.table headed alignments) ns = true) :
    (mergeTable ns).1.failure = none ∧
      allWellFormed (.table headed alignments) (mergeTable ns).1.value = true := by
  obtain ⟨rows, rfl, hrows⟩ := exists_rows h
  obtain ⟨hcolumns, hcolumnsDone⟩ := mergeColumns_node rows
  obtain ⟨hspans, hspansDone⟩ := mergeRows_node (rows.map Row.joined)
  rw [mergeTable]
  simp only [hcolumnsDone, hcolumns, hspansDone, hspans, true_and]
  exact allWellFormed_rows (areRows_joinRows (areRows_joined hrows)) headed alignments

mutual

theorem mergeTree_wellFormed {n : Node} (h : n.isWellFormed = true) :
    (mergeTree n).failure = none ∧ (mergeTree n).tree.kind = n.kind ∧
      (mergeTree n).tree.isWellFormed = true := by
  match n with
  | .leaf l m =>
      rw [mergeTree]
      exact ⟨rfl, rfl, isWellFormed_leaf⟩
  | .branch k ns m =>
      rw [isWellFormed_branch] at h
      obtain ⟨hfailure, hbelow⟩ := mergeTrees_wellFormed h.2
      unfold mergeTree
      split
      · next headed alignments =>
          -- what was merged first tells of a failure, what is merged below is kept
          simp only [(mergeTable_wellFormed h.2).1]
          exact ⟨hfailure, rfl, isWellFormed_branch.2 ⟨h.1, (mergeTable_wellFormed hbelow).2⟩⟩
      · exact ⟨hfailure, rfl, isWellFormed_branch.2 ⟨h.1, hbelow⟩⟩

theorem mergeTrees_wellFormed {k : Branch} {ns : List Node} (h : allWellFormed k ns = true) :
    (mergeTrees ns).failure = none ∧ allWellFormed k (mergeTrees ns).trees = true := by
  match ns with
  | [] =>
      rw [mergeTrees]
      exact ⟨rfl, allWellFormed_nil⟩
  | n :: ns =>
      obtain ⟨⟨hadmits, hwell⟩, hrest⟩ := allWellFormed_cons.1 h
      obtain ⟨hnone, hkind, hfirst⟩ := mergeTree_wellFormed hwell
      obtain ⟨hfailure, hns⟩ := mergeTrees_wellFormed hrest
      rw [mergeTrees]
      simp only [hnone]
      exact ⟨hfailure, allWellFormed_cons_of_kind_eq hadmits hkind hfirst hns⟩

end

theorem apply_wellFormed {document : Node} (h : document.isWellFormedDocument = true) :
    (apply document).failure = none ∧ (apply document).tree.isWellFormedDocument = true := by
  obtain ⟨hfailure, hkind, htree⟩ := mergeTree_wellFormed (Bool.and_eq_true_iff.1 h).2
  exact ⟨hfailure, isWellFormedDocument_of_kind_eq h hkind htree⟩

end TableSpans

/-! ## Running a transform -/

namespace Transform

/-- Whether the transform is one of the program's own. -/
def isBuiltIn : Transform → Bool
  | .custom .. => false
  | _ => true

/-- The program's own transforms never fail on a well-formed document and leave
a well-formed document. -/
theorem run_wellFormed {t : Transform} (ht : t.isBuiltIn = true) {document : Node}
    (h : document.isWellFormedDocument = true) :
    (t.run document).failure = none ∧ (t.run document).tree.isWellFormedDocument = true := by
  have hdocument : ensureDocument document t.name = .ok () := by
    rw [ensureDocument, if_pos (Bool.and_eq_true_iff.1 h).1]
  rw [run, hdocument]
  cases t with
  | imageAttributes => exact ImageAttributes.apply_wellFormed h
  | tableSpans => exact TableSpans.apply_wellFormed h
  | preamble source => exact ⟨rfl, insertPreamble_wellFormed source h⟩
  | directives markup => exact DirectiveMarkup.apply_wellFormed markup h
  | custom name rewrite => cases ht

end Transform

end TypstPress
