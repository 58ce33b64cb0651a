import TypstPress.Document.Node

/-!
# Walking a tree

The nodes of a tree are visited parents before children and siblings in document order. The walk
keeps the nodes still to visit on a stack, so that its depth does not grow with that of the tree;
it ends because every step takes one node off the stack for good. Searching and collecting are
filters of the walk, while the text of a tree is gathered by recursion.
-/

namespace TypstPress

namespace Node

mutual

/-- The number of nodes of a tree. -/
def count : Node → Nat
  | .leaf _ _ => 1
  | .branch _ cs _ => countAll cs + 1

/-- The number of nodes of several trees. -/
def countAll : List Node → Nat
  | [] => 0
  | n :: ns => n.count + countAll ns

end

theorem countAll_append (ms ns : List Node) : countAll (ms ++ ns) = countAll ms + countAll ns := by
  induction ms with
  | nil => simp [countAll]
  | cons m ms ih => simp [countAll, ih, Nat.add_assoc]

theorem count_eq (n : Node) : n.count = countAll n.children + 1 := by
  cases n <;> simp [count, children, countAll]

/-- Visits the nodes on the stack with all their descendants. -/
def walkStack : List Node → List Node
  | [] => []
  | n :: stack => n :: walkStack (n.children ++ stack)
termination_by stack => countAll stack
decreasing_by
  rw [countAll_append, countAll, count_eq]
  omega

/-- The node and its descendants, parents first, siblings in document order. -/
def walk (n : Node) : List Node := walkStack [n]

/-- The nodes of the tree whose kind satisfies `p`, in document order. -/
def find (p : Kind → Bool) (n : Node) : List Node := n.walk.filter fun m => p m.kind

/-- The parts that are not empty with a text between them. -/
def joinParts (joiner : String) (parts : List String) : String :=
  joiner.intercalate (parts.filter (!·.isEmpty))

mutual

/-- The text of a tree: that of its text nodes, with `joiner` between those parts of one list of
children that have any. -/
def plainText (joiner : String) : Node → String
  | .leaf (.text content) _ => content
  | .leaf _ _ => ""
  | .branch _ cs _ => joinParts joiner (plainTexts joiner cs)

/-- The texts of several trees. -/
def plainTexts (joiner : String) : List Node → List String
  | [] => []
  | n :: ns => n.plainText joiner :: plainTexts joiner ns

end

/-- The text of a row of trees, joined like the children of a node. -/
def plainTextOf (joiner : String) (ns : List Node) : String :=
  joinParts joiner (plainTexts joiner ns)

/-- The node at a path of child positions. -/
def at? (n : Node) : List Nat → Option Node
  | [] => some n
  | i :: path =>
    match n.children[i]? with
    | some child => child.at? path
    | none => none

/-- The tree after rewriting the node at a path of child positions. -/
def modifyAt (f : Node → Node) : List Nat → Node → Node
  | [], n => f n
  | i :: path, .branch k cs m => .branch k (cs.modify i (modifyAt f path)) m
  | _ :: _, n => n

end Node

end TypstPress
