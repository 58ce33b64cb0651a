import TypstPress.Proofs.Document.Preorder

/-!
# Well-formed documents

Any kind of node may stand in any list of children, and the parts of the
program that rewrite and set trees rely on more than that: lists hold items,
tables hold rows and rows hold cells. `isWellFormed` is what they rely on. A
kind is sound by itself (the level of a heading, the alignments and spans of
tables), it admits some kinds of children and not others, and so on down the
tree.

Whether a child is admitted depends on its kind only. A rewriting that keeps
kinds, or puts one kind of text for another, therefore keeps a tree well
formed as soon as it keeps the children so.
-/

namespace TypstPress

/-- Whether an alignment is one of those that tables can be set with. -/
def isAlignment : Option String → Bool
  | none => true
  | some word => word == "left" || word == "center" || word == "right"

/-- Whether what a branch holds besides its children is in range. -/
def Branch.isSound : Branch → Bool
  | .heading level => decide (1 ≤ level) && decide (level ≤ 6)
  | .table _ alignments => alignments.all isAlignment
  | .tableCell colspan rowspan _ alignment =>
    decide (1 ≤ colspan) && decide (1 ≤ rowspan) && isAlignment alignment
  | _ => true

namespace Kind

/-- Whether the kind is that of a table row. -/
def isRow : Kind → Bool
  | .branch (.tableRow _) => true
  | _ => false

/-- Whether the kind is that of a table cell. -/
def isCell : Kind → Bool
  | .branch (.tableCell ..) => true
  | _ => false

/-- Whether the kind is that of a list item. -/
def isItem : Kind → Bool
  | .branch .listItem => true
  | _ => false

/-- Whether the kind may stand where any content may: it is no document and no
row. -/
def isContent (k : Kind) : Bool := !k.isDocument && !k.isRow

end Kind

/-- Whether a node of some kind may be a child of the branch. -/
def Branch.admits : Branch → Kind → Bool
  | .list .., child => child.isItem
  | .table .., child => child.isRow
  | .tableRow _, child => child.isCell
  | _, child => child.isContent

namespace Node

mutual

/-- Whether every branch of the tree is sound and admits its children. -/
def isWellFormed : Node → Bool
  | .leaf _ _ => true
  | .branch k cs _ => k.isSound && allWellFormed k cs

/-- Whether the children of a branch are admitted and well formed. -/
def allWellFormed (k : Branch) : List Node → Bool
  | [] => true
  | n :: ns => k.admits n.kind && n.isWellFormed && allWellFormed k ns

end

/-- Whether the tree is a well-formed document. -/
def isWellFormedDocument (n : Node) : Bool := n.isDocument && n.isWellFormed

variable {k : Branch} {l : Leaf} {cs ns : List Node} {n : Node} {m : Metadata}

theorem isWellFormed_leaf : (Node.leaf l m).isWellFormed = true := by
  rw [isWellFormed]

theorem isWellFormed_branch :
    (Node.branch k cs m).isWellFormed = true ↔
      k.isSound = true ∧ allWellFormed k cs = true := by
  rw [isWellFormed, Bool.and_eq_true]

theorem allWellFormed_nil : allWellFormed k [] = true := by
  rw [allWellFormed]

theorem allWellFormed_cons :
    allWellFormed k (n :: ns) = true ↔
      (k.admits n.kind = true ∧ n.isWellFormed = true) ∧ allWellFormed k ns = true := by
  rw [allWellFormed, Bool.and_eq_true, Bool.and_eq_true]

theorem allWellFormed_iff :
    allWellFormed k ns = true ↔
      ∀ n ∈ ns, k.admits n.kind = true ∧ n.isWellFormed = true := by
  induction ns with
  | nil => exact ⟨fun _ _ h => absurd h List.not_mem_nil, fun _ => allWellFormed_nil⟩
  | cons n ns ih => rw [allWellFormed_cons, ih, List.forall_mem_cons]

/-- Whether the trees are well formed and may stand where any content may. -/
def AreContent (ns : List Node) : Prop :=
  ∀ n ∈ ns, n.kind.isContent = true ∧ n.isWellFormed = true

theorem areContent_nil : AreContent [] := fun _ h => absurd h List.not_mem_nil

theorem areContent_cons :
    AreContent (n :: ns) ↔
      (n.kind.isContent = true ∧ n.isWellFormed = true) ∧ AreContent ns :=
  List.forall_mem_cons

theorem areContent_append {ms : List Node} (hm : AreContent ms) (hn : AreContent ns) :
    AreContent (ms ++ ns) :=
  List.forall_mem_append.2 ⟨hm, hn⟩

theorem areContent_one (hkind : n.kind.isContent = true) (h : n.isWellFormed = true) :
    AreContent [n] :=
  areContent_cons.2 ⟨⟨hkind, h⟩, areContent_nil⟩

theorem areContent_leaf : AreContent [.leaf l m] := areContent_one rfl isWellFormed_leaf

end Node

/-- Branches whose children may be replaced admit any content. -/
theorem Branch.admits_eq {k : Branch} (h : k.acceptsChildren = true) :
    k.admits = Kind.isContent := by
  cases k with
  | list | table | tableRow => cases h
  | _ => rfl

theorem Branch.not_isDocument_of_admits {k : Branch} {child : Kind}
    (h : k.admits child = true) : (!child.isDocument) = true := by
  cases child with
  | leaf l => rfl
  | branch k' =>
      cases k' with
      | document => cases k <;> cases h
      | _ => rfl

namespace Node

theorem allWellFormed_iff_areContent {k : Branch} (h : k.acceptsChildren = true)
    {ns : List Node} : allWellFormed k ns = true ↔ AreContent ns := by
  rw [allWellFormed_iff, Branch.admits_eq h, AreContent]

theorem eq_row {n : Node} (h : n.kind.isRow = true) :
    ∃ isHeader cells m, n = .branch (.tableRow isHeader) cells m := by
  cases n with
  | leaf l m => cases h
  | branch k cs m =>
      cases k with
      | tableRow isHeader => exact ⟨isHeader, cs, m, rfl⟩
      | _ => cases h

theorem eq_cell {n : Node} (h : n.kind.isCell = true) :
    ∃ colspan rowspan suppressed alignment cs m,
      n = .branch (.tableCell colspan rowspan suppressed alignment) cs m := by
  cases n with
  | leaf l m => cases h
  | branch k cs m =>
      cases k with
      | tableCell colspan rowspan suppressed alignment =>
          exact ⟨colspan, rowspan, suppressed, alignment, cs, m, rfl⟩
      | _ => cases h

theorem isWellFormed_of_areContent {k : Branch} {cs : List Node} {m : Metadata}
    (hk : k.acceptsChildren = true) (hsound : k.isSound = true) (h : AreContent cs) :
    (Node.branch k cs m).isWellFormed = true :=
  isWellFormed_branch.2 ⟨hsound, (allWellFormed_iff_areContent hk).2 h⟩

theorem allOf_of_allWellFormed {k : Branch} {ns : List Node} (h : allWellFormed k ns = true) :
    allOf (!·.isDocument) ns = true := by
  match ns with
  | [] => exact allOf_nil
  | .leaf l m :: ns =>
      exact allOf_cons.2 ⟨rfl, allOf_of_allWellFormed (allWellFormed_cons.1 h).2⟩
  | .branch k' cs m :: ns =>
      obtain ⟨⟨hadmits, hwell⟩, hrest⟩ := allWellFormed_cons.1 h
      have hcs : allOf (!·.isDocument) cs = true :=
        allOf_of_allWellFormed (isWellFormed_branch.1 hwell).2
      exact allOf_cons.2 ⟨all_branch.2 ⟨Branch.not_isDocument_of_admits hadmits, hcs⟩,
        allOf_of_allWellFormed hrest⟩

/-- A well-formed tree holds no document below its root. -/
theorem allOf_children_of_isWellFormed {n : Node} (h : n.isWellFormed = true) :
    allOf (!·.isDocument) n.children = true := by
  cases n with
  | leaf l m => exact allOf_nil
  | branch k cs m => exact allOf_of_allWellFormed (isWellFormed_branch.1 h).2

theorem isWholeDocument_of_isWellFormedDocument {n : Node}
    (h : n.isWellFormedDocument = true) : n.isWholeDocument = true := by
  rw [isWellFormedDocument, Bool.and_eq_true] at h
  rw [isWholeDocument, h.1, allOf_children_of_isWellFormed h.2]
  rfl

end Node

end TypstPress
