import TypstPress.Document.Traverse

/-!
# The walk is the preorder of the tree

`Node.walk` keeps a stack so that deep trees cost no recursion, and that is
the wrong shape for an induction: a stack mixes nodes of different depths.
This file trades it for the recursion a reader would have written first.
`walk_eq_preorder` says that the two list the same nodes in the same order,
and everything that is collected from a walk is proved about `preorder`.

Beside it stand the properties that hold of a tree node by node. `all p` is
one of them: every node of the tree is of a kind that `p` accepts. It is
inherited by whatever the walk visits, which is how a fact about a document
reaches the footnote bodies collected from it.
-/

namespace TypstPress

/-- Trees are built from below. -/
@[elab_as_elim]
theorem Node.induction {P : Node → Prop} (leaf : ∀ l m, P (.leaf l m))
    (branch : ∀ k cs m, (∀ c ∈ cs, P c) → P (.branch k cs m)) (n : Node) : P n :=
  @Node.rec P (fun ns => ∀ n ∈ ns, P n) leaf branch
    (fun _ hn => absurd hn List.not_mem_nil)
    (fun _ _ hn hns => List.forall_mem_cons.2 ⟨hn, hns⟩) n

namespace Node

mutual

/-- The node and its descendants, parents first, by recursion. -/
def preorder : Node → List Node
  | .leaf l m => [.leaf l m]
  | .branch k cs m => .branch k cs m :: preorderAll cs

/-- The preorders of several trees, one after the other. -/
def preorderAll : List Node → List Node
  | [] => []
  | n :: ns => n.preorder ++ preorderAll ns

end

theorem preorderAll_append (ms ns : List Node) :
    preorderAll (ms ++ ns) = preorderAll ms ++ preorderAll ns := by
  induction ms with
  | nil => rfl
  | cons m ms ih =>
      rw [List.cons_append, preorderAll, preorderAll, ih, List.append_assoc]

theorem mem_preorderAll {ns : List Node} {m : Node} :
    m ∈ preorderAll ns ↔ ∃ n ∈ ns, m ∈ n.preorder := by
  induction ns with
  | nil => simp [preorderAll]
  | cons n ns ih => simp [preorderAll, ih]

theorem preorder_eq (n : Node) : n.preorder = n :: preorderAll n.children := by
  cases n with
  | leaf l m => rfl
  | branch k cs m => rw [preorder, children]

theorem walkStack_eq_preorderAll (stack : List Node) :
    walkStack stack = preorderAll stack := by
  induction stack using walkStack.induct with
  | case1 => rw [walkStack, preorderAll]
  | case2 n stack ih =>
      rw [walkStack, ih, preorderAll_append, preorderAll, preorder_eq,
        List.cons_append]

theorem walk_eq_preorder (n : Node) : n.walk = n.preorder := by
  rw [walk, walkStack_eq_preorderAll, preorderAll, preorderAll, List.append_nil]

/-! ## Properties of every node -/

mutual

/-- Whether `p` accepts the kind of every node of the tree. -/
def all (p : Kind → Bool) : Node → Bool
  | .leaf l _ => p (.leaf l)
  | .branch k cs _ => p (.branch k) && allOf p cs

/-- Whether `p` accepts the kind of every node of several trees. -/
def allOf (p : Kind → Bool) : List Node → Bool
  | [] => true
  | n :: ns => n.all p && allOf p ns

end

@[simp] theorem all_leaf {p : Kind → Bool} {l : Leaf} {m : Metadata} :
    (Node.leaf l m).all p = p (.leaf l) := by
  rw [all]

@[simp] theorem all_branch {p : Kind → Bool} {k : Branch} {cs : List Node}
    {m : Metadata} :
    (Node.branch k cs m).all p = true ↔ p (.branch k) = true ∧ allOf p cs = true := by
  rw [all, Bool.and_eq_true]

@[simp] theorem allOf_nil {p : Kind → Bool} : allOf p [] = true := by
  rw [allOf]

@[simp] theorem allOf_cons {p : Kind → Bool} {n : Node} {ns : List Node} :
    allOf p (n :: ns) = true ↔ n.all p = true ∧ allOf p ns = true := by
  rw [allOf, Bool.and_eq_true]

theorem allOf_iff {p : Kind → Bool} {ns : List Node} :
    allOf p ns = true ↔ ∀ n ∈ ns, n.all p = true := by
  induction ns with
  | nil => exact ⟨fun _ _ h => absurd h List.not_mem_nil, fun _ => allOf_nil⟩
  | cons n ns ih => rw [allOf_cons, ih, List.forall_mem_cons]

theorem allOf_append {p : Kind → Bool} {ms ns : List Node} (hms : allOf p ms = true)
    (hns : allOf p ns = true) : allOf p (ms ++ ns) = true :=
  allOf_iff.2 (List.forall_mem_append.2 ⟨allOf_iff.1 hms, allOf_iff.1 hns⟩)

mutual

theorem all_and {p q : Kind → Bool} {n : Node} :
    n.all (fun k => p k && q k) = true ↔ n.all p = true ∧ n.all q = true := by
  match n with
  | .leaf l m => rw [all_leaf, all_leaf, all_leaf, Bool.and_eq_true]
  | .branch k cs m =>
      rw [all_branch, all_branch, all_branch, allOf_and, Bool.and_eq_true]
      exact and_and_and_comm

theorem allOf_and {p q : Kind → Bool} {ns : List Node} :
    allOf (fun k => p k && q k) ns = true ↔ allOf p ns = true ∧ allOf q ns = true := by
  match ns with
  | [] => simp
  | n :: ns =>
      rw [allOf_cons, allOf_cons, allOf_cons, all_and, allOf_and]
      exact and_and_and_comm

end

mutual

theorem all_of_forall {p : Kind → Bool} (hp : ∀ k, p k = true) (n : Node) : n.all p = true := by
  match n with
  | .leaf l m =>
      rw [all_leaf]
      exact hp _
  | .branch k cs m =>
      rw [all_branch]
      exact ⟨hp _, allOf_of_forall hp cs⟩

theorem allOf_of_forall {p : Kind → Bool} (hp : ∀ k, p k = true) (ns : List Node) :
    allOf p ns = true := by
  match ns with
  | [] => exact allOf_nil
  | n :: ns =>
      rw [allOf_cons]
      exact ⟨all_of_forall hp n, allOf_of_forall hp ns⟩

end

theorem kind_of_all {p : Kind → Bool} {n : Node} (h : n.all p = true) : p n.kind = true := by
  cases n with
  | leaf l m =>
      rw [all_leaf] at h
      exact h
  | branch k cs m => exact (all_branch.1 h).1

theorem allOf_children {p : Kind → Bool} {n : Node} (h : n.all p = true) :
    allOf p n.children = true := by
  cases n with
  | leaf l m => exact allOf_nil
  | branch k cs m => exact (all_branch.1 h).2

mutual

/-- Whatever a walk visits inherits a property of every node. -/
theorem all_of_mem_preorder {p : Kind → Bool} {n m : Node} (h : n.all p = true)
    (hm : m ∈ n.preorder) : m.all p = true := by
  match n with
  | .leaf l d =>
      rw [preorder, List.mem_singleton] at hm
      rw [hm]
      exact h
  | .branch k cs d =>
      rw [preorder] at hm
      rcases List.mem_cons.1 hm with rfl | hm
      · exact h
      · exact all_of_mem_preorderAll (all_branch.1 h).2 hm

theorem all_of_mem_preorderAll {p : Kind → Bool} {ns : List Node} {m : Node}
    (h : allOf p ns = true) (hm : m ∈ preorderAll ns) : m.all p = true := by
  match ns with
  | [] => rw [preorderAll] at hm; cases hm
  | n :: ns =>
      rw [preorderAll] at hm
      rw [allOf_cons] at h
      rcases List.mem_append.1 hm with hm | hm
      · exact all_of_mem_preorder h.1 hm
      · exact all_of_mem_preorderAll h.2 hm

end

end Node

namespace Kind

/-- Whether the kind is that of a whole document. -/
def isDocument : Kind → Bool
  | .branch .document => true
  | _ => false

/-- Whether the kind is Typst source that is set as it stands. -/
def isRawSource : Kind → Bool
  | .leaf (.typstContent _) => true
  | _ => false

end Kind

theorem Node.eq_document {n : Node} (h : n.isDocument = true) :
    ∃ cs m, n = .branch .document cs m := by
  cases n with
  | leaf l m => cases h
  | branch k cs m =>
      cases k with
      | document => exact ⟨cs, m, rfl⟩
      | _ => cases h

/-- Whether the tree is a document and holds no other one. -/
def Node.isWholeDocument (n : Node) : Bool :=
  n.isDocument && allOf (!·.isDocument) n.children

end TypstPress
