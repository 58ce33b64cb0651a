import TypstPress.Proofs.Transform.SpanGrowth
import TypstPress.Proofs.Transform.WellFormed

/-!
# Transforms on arranged trees

Transforms refuse a tree in few places only: an attribute block cannot be taken
out of a list, a directive in a row cannot be replaced, and spans are merged in
rows of cells. So a tree is accepted as soon as its lists hold items, its tables
rows and its rows cells. `isArranged` asks for this and for nothing else, which
is less than being well formed: items, rows and cells may turn up elsewhere, and
so may documents, and spans and alignments may be what they are.

Where nothing is refused a transform is one equation. What it makes of a branch
is that branch around what it makes of the children, and how the children
themselves are rearranged is all in which the three transforms differ
(`attached_branch`, `merged_branch`, `replaced_branch`).
-/

namespace TypstPress

/-- Whether a branch holds nodes of some kind: lists hold items, tables rows and
rows cells, and all others hold anything. -/
def Branch.holds : Branch → Kind → Bool
  | .list .., child => child.isItem
  | .table .., child => child.isRow
  | .tableRow _, child => child.isCell
  | _, _ => true

namespace Node

mutual

/-- Whether every branch of the tree holds its children. -/
def isArranged : Node → Bool
  | .leaf _ _ => true
  | .branch k cs _ => allArranged k cs

/-- Whether a branch holds all of its children, and these are arranged. -/
def allArranged (k : Branch) : List Node → Bool
  | [] => true
  | n :: ns => k.holds n.kind && n.isArranged && allArranged k ns

end

/-- Whether the tree is an arranged document. -/
def isArrangedDocument (n : Node) : Bool := n.isDocument && n.isArranged

variable {k : Branch} {l : Leaf} {cs ns : List Node} {m : Metadata}

theorem isArranged_leaf : (Node.leaf l m).isArranged = true := by
  rw [isArranged]

theorem isArranged_branch : (Node.branch k cs m).isArranged = allArranged k cs := by
  rw [isArranged]

theorem allArranged_iff :
    allArranged k ns = true ↔ ∀ n ∈ ns, k.holds n.kind = true ∧ n.isArranged = true := by
  induction ns with
  | nil =>
      rw [allArranged]
      exact ⟨fun _ _ h => absurd h List.not_mem_nil, fun _ => rfl⟩
  | cons n ns ih =>
      rw [allArranged, Bool.and_eq_true, Bool.and_eq_true, ih, List.forall_mem_cons]

/-- What keeps the kind of every child and keeps it arranged can be done to all
of them. -/
theorem allArranged_map {g : Node → Node} (hkind : ∀ c ∈ cs, k.holds (g c).kind = k.holds c.kind)
    (harranged : ∀ c ∈ cs, (g c).isArranged = true) (h : allArranged k cs = true) :
    allArranged k (cs.map g) = true := by
  rw [allArranged_iff] at h ⊢
  refine List.forall_mem_map.2 fun c hc => ⟨?_, harranged c hc⟩
  rw [hkind c hc]
  exact (h c hc).1

end Node

open Node

theorem Branch.holds_eq_true {k : Branch} (h : k.acceptsChildren = true) (child : Kind) :
    k.holds child = true := by
  cases k with
  | list | table | tableRow => cases h
  | _ => rfl

/-- Branches whose children cannot be replaced hold neither leaves nor
directives. -/
theorem Branch.not_holds_leaf {k : Branch} (h : k.acceptsChildren = false) (l : Leaf) :
    k.holds (.leaf l) = false := by
  cases k with
  | list | table | tableRow => rfl
  | _ => cases h

theorem Branch.not_holds_leafDirective {k : Branch} (h : k.acceptsChildren = false)
    (name : String) (attributes : Attributes) :
    k.holds (.branch (.leafDirective name attributes)) = false := by
  cases k with
  | list | table | tableRow => rfl
  | _ => cases h

/-! ## Attribute blocks -/

namespace ImageAttributes

/-- The children of a node after their attribute blocks were moved and the texts
that were used up were removed. -/
def moved (cs : List Node) : List Node := ((moveBlocks cs).1.filter (!·.usedUp)).map (·.node)

/-- The tree after moving its attribute blocks. -/
def attached (n : Node) : Node := (attachTree n).tree

theorem mem_moved {cs : List Node} {n : Node} (h : n ∈ moved cs) :
    n ∈ cs ∨ (∃ l m, n = .leaf l m) ∧ ∃ l m, Node.leaf l m ∈ cs := by
  obtain ⟨child, hchild, rfl⟩ := List.mem_map.1 h
  exact (comesFrom_of_mem (List.mem_filter.1 hchild).1).imp And.left id

theorem allArranged_moved {k : Branch} {cs : List Node} (h : allArranged k cs = true) :
    allArranged k (moved cs) = true := by
  rw [allArranged_iff] at h ⊢
  intro n hn
  rcases mem_moved hn with hmem | ⟨⟨l, m, rfl⟩, l', m', hleaf⟩
  · exact h n hmem
  · refine ⟨?_, isArranged_leaf⟩
    cases hk : k.acceptsChildren with
    | true => exact Branch.holds_eq_true hk _
    | false =>
        -- a branch that insists on its children has no leaf to begin with
        have hholds := (h _ hleaf).1
        rw [Node.kind, Branch.not_holds_leaf hk] at hholds
        cases hholds

theorem usedUp_eq_false {k : Branch} (hk : k.acceptsChildren = false) {cs : List Node}
    (h : allArranged k cs = true) : (moveBlocks cs).1.any (·.usedUp) = false := by
  rw [List.any_eq_false]
  intro child hchild
  rcases comesFrom_of_mem hchild with ⟨-, hkept⟩ | ⟨-, l, m, hleaf⟩
  · rw [hkept]
    exact Bool.false_ne_true
  · have hholds := (allArranged_iff.1 h _ hleaf).1
    rw [Node.kind, Branch.not_holds_leaf hk] at hholds
    cases hholds

theorem attach_arranged {k : Branch} {cs : List Node} (h : allArranged k cs = true)
    (m : Metadata) :
    (attach (.branch k cs m)).refusal = none ∧
      (attach (.branch k cs m)).tree = .branch k (moved cs) m := by
  rw [attach]
  dsimp only
  cases hused : (moveBlocks cs).1.any (·.usedUp) with
  | true =>
      cases hk : k.acceptsChildren with
      | true => exact ⟨rfl, rfl⟩
      | false =>
          rw [usedUp_eq_false hk h] at hused
          cases hused
  | false =>
      have hall : (moveBlocks cs).1.filter (!·.usedUp) = (moveBlocks cs).1 := by
        rw [List.any_eq_false] at hused
        refine List.filter_eq_self.2 fun child hchild => ?_
        rw [Bool.not_eq_true', ← Bool.not_eq_true]
        exact hused child hchild
      rw [moved, hall]
      exact ⟨rfl, rfl⟩

theorem attachTrees_eq {ns : List Node} (h : ∀ n ∈ ns, (attachTree n).refusal = none) :
    (attachTrees ns).1 = ns.map attached ∧ (attachTrees ns).2.2 = none := by
  induction ns with
  | nil =>
      rw [attachTrees]
      exact ⟨rfl, rfl⟩
  | cons n ns ih =>
      rw [List.forall_mem_cons] at h
      obtain ⟨hrest, hrefusal⟩ := ih h.2
      rw [attachTrees, List.map_cons, ← hrest]
      simp only [h.1]
      exact ⟨rfl, hrefusal⟩

theorem attachTree_branch {k : Branch} {cs : List Node} (h : allArranged k cs = true)
    (hcs : ∀ c ∈ cs, (attachTree c).refusal = none)
    (hattached : allArranged k (cs.map attached) = true) (m : Metadata) :
    (attachTree (.branch k cs m)).refusal = none ∧
      attached (.branch k cs m) = .branch k (moved (cs.map attached)) m := by
  obtain ⟨hchildren, hrefusal⟩ := attachTrees_eq hcs
  rw [attached, attachTree]
  simp only [(attach_arranged h m).1, hchildren, hrefusal]
  exact ⟨trivial, (attach_arranged hattached m).2⟩

/-- Nothing is refused in arranged trees, which stay arranged. -/
theorem attached_arranged {n : Node} (h : n.isArranged = true) :
    (attachTree n).refusal = none ∧ (attached n).kind = n.kind ∧
      (attached n).isArranged = true := by
  induction n using Node.induction with
  | leaf l m =>
      rw [attached, attachTree]
      exact ⟨rfl, rfl, isArranged_leaf⟩
  | branch k cs m ih =>
      rw [isArranged_branch] at h
      have hcs := fun c hc => ih c hc (allArranged_iff.1 h c hc).2
      have hattached : allArranged k (cs.map attached) = true :=
        allArranged_map (fun c hc => by rw [(hcs c hc).2.1]) (fun c hc => (hcs c hc).2.2) h
      obtain ⟨hrefusal, htree⟩ := attachTree_branch h (fun c hc => (hcs c hc).1) hattached m
      rw [htree, isArranged_branch]
      exact ⟨hrefusal, rfl, allArranged_moved hattached⟩

theorem allArranged_attached {k : Branch} {cs : List Node} (h : allArranged k cs = true) :
    allArranged k (cs.map attached) = true :=
  allArranged_map (fun c hc => by rw [(attached_arranged (allArranged_iff.1 h c hc).2).2.1])
    (fun c hc => (attached_arranged (allArranged_iff.1 h c hc).2).2.2) h

theorem attached_leaf (l : Leaf) (m : Metadata) : attached (.leaf l m) = .leaf l m := by
  rw [attached, attachTree]

theorem attached_branch {k : Branch} {cs : List Node} {m : Metadata}
    (h : (Node.branch k cs m).isArranged = true) :
    attached (.branch k cs m) = .branch k (moved (cs.map attached)) m := by
  rw [isArranged_branch] at h
  have hcs := fun c hc => (attached_arranged (allArranged_iff.1 h c hc).2).1
  exact (attachTree_branch h hcs (allArranged_attached h) m).2

end ImageAttributes

/-! ## Spans -/

namespace TableSpans

/-- The children of a branch after merging the cells of the table that it may
be. -/
def joinedIn (k : Branch) (cs : List Node) : List Node :=
  match k with
  | .table .. => (mergeTable cs).1.value
  | _ => cs

/-- The tree after merging the cells of its tables. -/
def merged (n : Node) : Node := (mergeTree n).tree

theorem holds_of_kindGrown {marked : Bool} {k k' : Branch} (h : KindGrown marked k k') :
    k'.holds = k.holds ∧
      ∀ parent : Branch, parent.holds (.branch k') = parent.holds (.branch k) := by
  cases h with
  | refl => exact ⟨rfl, fun _ => rfl⟩
  | cell => exact ⟨rfl, fun parent => by cases parent <;> rfl⟩

theorem holds_of_grown {n n' : Node} (h : Grown n n') (k : Branch) :
    k.holds n'.kind = k.holds n.kind := by
  cases h with
  | leaf l m => rfl
  | branch hkind hchildren => exact (holds_of_kindGrown hkind).2 k

theorem isArranged_of_grown {n n' : Node} (hgrown : Grown n n') (h : n.isArranged = true) :
    n'.isArranged = true := by
  induction n using Node.induction generalizing n' with
  | leaf l m =>
      cases hgrown
      exact h
  | branch k cs m ih =>
      cases hgrown with
      | @branch _ k' _ cs' _ hkind hchildren =>
          rw [isArranged_branch, allArranged_iff] at h ⊢
          intro c' hc'
          obtain ⟨c, hc, hgrown⟩ := exists_mem_of_grown hchildren hc'
          rw [(holds_of_kindGrown hkind).1, holds_of_grown hgrown]
          exact ⟨(h c hc).1, ih c hc hgrown (h c hc).2⟩

theorem allArranged_of_grown {k : Branch} {cs cs' : List Node} (h : List.Forall₂ Grown cs cs')
    (hcs : allArranged k cs = true) : allArranged k cs' = true := by
  rw [allArranged_iff] at hcs ⊢
  intro c' hc'
  obtain ⟨c, hc, hgrown⟩ := exists_mem_of_grown h hc'
  rw [holds_of_grown hgrown]
  exact ⟨(hcs c hc).1, isArranged_of_grown hgrown (hcs c hc).2⟩

theorem merged_grown (n : Node) : Grown n (merged n) := mergeTree_grown n

theorem isArranged_merged {n : Node} (h : n.isArranged = true) : (merged n).isArranged = true :=
  isArranged_of_grown (merged_grown n) h

theorem allArranged_merged {k : Branch} {cs : List Node} (h : allArranged k cs = true) :
    allArranged k (cs.map merged) = true :=
  allArranged_map (fun c _ => holds_of_grown (merged_grown c) k)
    (fun c hc => isArranged_merged (allArranged_iff.1 h c hc).2) h

theorem exists_arrangedCells {isHeader : Bool} {ns : List Node}
    (h : allArranged (.tableRow isHeader) ns = true) :
    ∃ cells : List Cell, ns = cells.map Cell.node := by
  induction ns with
  | nil => exact ⟨[], rfl⟩
  | cons n ns ih =>
      rw [allArranged, Bool.and_eq_true, Bool.and_eq_true] at h
      obtain ⟨cells, rfl⟩ := ih h.2
      obtain ⟨colspan, rowspan, suppressed, alignment, cs, m, rfl⟩ := eq_cell h.1.1
      exact ⟨⟨colspan, rowspan, suppressed, alignment, cs, m⟩ :: cells, rfl⟩

theorem exists_arrangedRows {headed : Bool} {alignments : List (Option String)} {ns : List Node}
    (h : allArranged (.table headed alignments) ns = true) :
    ∃ rows : List Row, ns = rows.map Row.node := by
  induction ns with
  | nil => exact ⟨[], rfl⟩
  | cons n ns ih =>
      rw [allArranged, Bool.and_eq_true, Bool.and_eq_true] at h
      obtain ⟨rows, rfl⟩ := ih h.2
      obtain ⟨isHeader, cs, m, rfl⟩ := eq_row h.1.1
      obtain ⟨cells, rfl⟩ := exists_arrangedCells (isArranged_branch ▸ h.1.2)
      exact ⟨⟨isHeader, cells, m⟩ :: rows, rfl⟩

theorem mergeTable_node (rows : List Row) :
    (mergeTable (rows.map Row.node)).1.failure = none ∧
      (mergeTable (rows.map Row.node)).1.value =
        (joinRows (rows.map Row.joined)).map Row.node := by
  obtain ⟨hcolumns, hcolumnsDone⟩ := mergeColumns_node rows
  obtain ⟨hspans, hspansDone⟩ := mergeRows_node (rows.map Row.joined)
  rw [mergeTable]
  simp only [hcolumnsDone, hcolumns, hspansDone, hspans, and_self]

theorem mergeTrees_eq {ns : List Node} (h : ∀ n ∈ ns, (mergeTree n).failure = none) :
    (mergeTrees ns).trees = ns.map merged ∧ (mergeTrees ns).failure = none := by
  induction ns with
  | nil =>
      rw [mergeTrees]
      exact ⟨rfl, rfl⟩
  | cons n ns ih =>
      rw [List.forall_mem_cons] at h
      obtain ⟨hrest, hfailure⟩ := ih h.2
      rw [mergeTrees, List.map_cons, ← hrest]
      simp only [h.1]
      exact ⟨rfl, hfailure⟩

/-- Merging never stops in arranged trees. -/
theorem mergeTree_failure {n : Node} (h : n.isArranged = true) :
    (mergeTree n).failure = none := by
  induction n using Node.induction with
  | leaf l m => rw [mergeTree]
  | branch k cs m ih =>
      rw [isArranged_branch] at h
      obtain ⟨-, hbelow⟩ := mergeTrees_eq fun c hc => ih c hc (allArranged_iff.1 h c hc).2
      unfold mergeTree
      split
      · obtain ⟨rows, rfl⟩ := exists_arrangedRows h
        simp only [(mergeTable_node rows).1]
        exact hbelow
      · exact hbelow

theorem merged_branch {k : Branch} {cs : List Node} {m : Metadata}
    (h : (Node.branch k cs m).isArranged = true) :
    merged (.branch k cs m) = .branch k (joinedIn k (cs.map merged)) m := by
  rw [isArranged_branch] at h
  obtain ⟨hbelow, -⟩ := mergeTrees_eq fun c hc => mergeTree_failure (allArranged_iff.1 h c hc).2
  rw [← hbelow, merged]
  unfold mergeTree
  split
  · obtain ⟨rows, rfl⟩ := exists_arrangedRows h
    simp only [(mergeTable_node rows).1]
    rfl
  · next hk =>
      cases k with
      | table headed alignments => exact absurd rfl (hk headed alignments)
      | _ => rfl

theorem merged_leaf (l : Leaf) (m : Metadata) : merged (.leaf l m) = .leaf l m := by
  rw [merged, mergeTree]

end TableSpans

/-! ## Directives -/

namespace DirectiveMarkup

variable (markup : List (String × String))

/-- The tree after replacing the directives below its root. -/
def replaced (n : Node) : Node := (replaceBelow markup n).tree

/-- What stands for a node after replacing directives: markup, if it is one of
them, and otherwise the node with those below it replaced. -/
def substituted (n : Node) : Node :=
  match markupFor? markup n with
  | some source => .ofTypst source
  | none => replaced markup n

theorem substituted_of_some {n : Node} {source : String}
    (h : markupFor? markup n = some source) : substituted markup n = .ofTypst source := by
  rw [substituted, h]

theorem substituted_of_none {n : Node} (h : markupFor? markup n = none) :
    substituted markup n = replaced markup n := by
  rw [substituted, h]

theorem acceptsChildren_of_holds {k : Branch} {n : Node} {source : String}
    (hholds : k.holds n.kind = true) (h : markupFor? markup n = some source) :
    k.acceptsChildren = true := by
  unfold markupFor? at h
  split at h
  · cases hk : k.acceptsChildren with
    | true => rfl
    | false =>
        rw [Node.kind, Branch.not_holds_leafDirective hk] at hholds
        cases hholds
  · cases h

theorem not_refused {k : Branch} {cs : List Node} (h : allArranged k cs = true) :
    (countMapped markup cs != 0 && !k.acceptsChildren) = false := by
  cases hk : k.acceptsChildren with
  | true => rw [Bool.not_true, Bool.and_false]
  | false =>
      have hzero : countMapped markup cs = 0 := by
        rw [countMapped, List.countP_eq_zero]
        intro n hn hsome
        obtain ⟨source, hsource⟩ := Option.isSome_iff_exists.1 hsome
        have haccepts := acceptsChildren_of_holds markup (allArranged_iff.1 h n hn).1 hsource
        rw [hk] at haccepts
        cases haccepts
      rw [hzero]
      rfl

theorem replaceAmong_eq {ns : List Node} (h : ∀ n ∈ ns, (replaceBelow markup n).refusal = none) :
    (replaceAmong markup ns).1 = ns.map (substituted markup) ∧
      (replaceAmong markup ns).2.2 = none := by
  induction ns with
  | nil =>
      rw [replaceAmong]
      exact ⟨rfl, rfl⟩
  | cons n ns ih =>
      rw [List.forall_mem_cons] at h
      obtain ⟨hrest, hrefusal⟩ := ih h.2
      rw [replaceAmong, List.map_cons, ← hrest]
      cases hmarkup : markupFor? markup n with
      | some source =>
          rw [substituted_of_some markup hmarkup]
          exact ⟨rfl, hrefusal⟩
      | none =>
          rw [substituted_of_none markup hmarkup]
          simp only [h.1]
          exact ⟨rfl, hrefusal⟩

theorem replaceBelow_branch {k : Branch} {cs : List Node} (h : allArranged k cs = true)
    (hcs : ∀ c ∈ cs, (replaceBelow markup c).refusal = none) (m : Metadata) :
    (replaceBelow markup (.branch k cs m)).refusal = none ∧
      replaced markup (.branch k cs m) = .branch k (cs.map (substituted markup)) m := by
  obtain ⟨hchildren, hrefusal⟩ := replaceAmong_eq markup hcs
  rw [replaced, replaceBelow]
  simp only [not_refused markup h, hchildren, hrefusal]
  exact ⟨rfl, rfl⟩

theorem replaceBelow_refusal {n : Node} (h : n.isArranged = true) :
    (replaceBelow markup n).refusal = none := by
  induction n using Node.induction with
  | leaf l m => rw [replaceBelow]
  | branch k cs m ih =>
      rw [isArranged_branch] at h
      exact (replaceBelow_branch markup h (fun c hc => ih c hc (allArranged_iff.1 h c hc).2) m).1

theorem replaced_leaf (l : Leaf) (m : Metadata) : replaced markup (.leaf l m) = .leaf l m := by
  rw [replaced, replaceBelow]

theorem replaced_branch {k : Branch} {cs : List Node} {m : Metadata}
    (h : (Node.branch k cs m).isArranged = true) :
    replaced markup (.branch k cs m) = .branch k (cs.map (substituted markup)) m := by
  rw [isArranged_branch] at h
  have hcs := fun c hc => replaceBelow_refusal markup (allArranged_iff.1 h c hc).2
  exact (replaceBelow_branch markup h hcs m).2

/-- Replacing directives keeps a tree arranged. -/
theorem isArranged_replaced {n : Node} (h : n.isArranged = true) :
    (replaced markup n).kind = n.kind ∧ (replaced markup n).isArranged = true := by
  induction n using Node.induction with
  | leaf l m =>
      rw [replaced_leaf]
      exact ⟨rfl, isArranged_leaf⟩
  | branch k cs m ih =>
      rw [replaced_branch markup h, isArranged_branch, allArranged_iff]
      rw [isArranged_branch, allArranged_iff] at h
      refine ⟨rfl, List.forall_mem_map.2 fun c hc => ?_⟩
      cases hmarkup : markupFor? markup c with
      | some source =>
          rw [substituted_of_some markup hmarkup]
          exact ⟨Branch.holds_eq_true (acceptsChildren_of_holds markup (h c hc).1 hmarkup) _, rfl⟩
      | none =>
          obtain ⟨hkind, harranged⟩ := ih c hc (h c hc).2
          rw [substituted_of_none markup hmarkup, hkind]
          exact ⟨(h c hc).1, harranged⟩

end DirectiveMarkup

end TypstPress
