import Mathlib.Data.List.Lex
import Mathlib.Data.List.Sort
import TypstPress.Proofs.Document.InPlaceWalk
import TypstPress.Proofs.Document.PlainText

/-!
# Document order

A tree can be gone through by a loop with a stack or by recursion, and what is
found on the way depends on the order. This file says what the order is without
either of them: every place of the tree once, in the lexicographic order of the
paths (`InDocumentOrder`). A path comes before those that go on from it, so
parents precede their children, and paths part at the positions of two siblings,
so an earlier sibling precedes a later one with all that is below it.

The loop is taken turn by turn. Its stack grows at the end, and the children of a
node are laid there from the last to the first, so that the first is taken next.
What is pending is the walk of the stack read backwards, and one turn moves one
node from what is pending to what was visited (`turn?_cases`). So the two lists
put together stay the same, and the state after any number of turns can be read
off (`visited_after`), the end of the loop included: it takes as many turns as
the tree has nodes.
-/

namespace TypstPress.Node

/-! ## The order -/

/-- That a list holds what stands at the places of a tree, each of them once, in
the lexicographic order of the places. -/
def InDocumentOrder (n : Node) (nodes : List Node) : Prop :=
  ∃ places : List (List Nat), places.Pairwise (List.Lex (· < ·)) ∧
    (∀ place, place ∈ places ↔ (n.at? place).isSome) ∧ nodes.map some = places.map n.at?

/-- There is one list in document order, and the recursion makes it. -/
theorem inDocumentOrder_iff {n : Node} {nodes : List Node} :
    n.InDocumentOrder nodes ↔ nodes = n.preorder := by
  constructor
  · rintro ⟨places, hsorted, hmem, hnodes⟩
    have hplaces : places = n.places :=
      hsorted.eq_of_mem_iff (pairwise_places n) fun place => (hmem place).trans mem_places.symm
    rw [hplaces, map_at?_places] at hnodes
    exact List.map_injective_iff.2 (Option.some_injective Node) hnodes
  · rintro rfl
    exact ⟨n.places, pairwise_places n, fun _ => mem_places, (map_at?_places n).symm⟩

theorem preorderAll_eq_flatMap (ns : List Node) : preorderAll ns = ns.flatMap walk := by
  induction ns with
  | nil => rfl
  | cons n ns ih => rw [preorderAll, List.flatMap_cons, ih, walk_eq_preorder]

/-- The walk is the node, then the walks of its children one after the other. -/
theorem walk_eq (n : Node) : n.walk = n :: n.children.flatMap walk := by
  rw [walk_eq_preorder, preorder_eq, preorderAll_eq_flatMap]

/-! ## The loop -/

/-- A walk on its way: the nodes still to visit, of which the last is the next one,
and those visited so far. -/
structure StackWalk where
  stack : List Node
  visited : List Node := []

namespace StackWalk

/-- The walk that has the root to visit. -/
def start (n : Node) : StackWalk := { stack := [n] }

/-- Takes the node from the end of the stack and lays its children there, the first
one last. Without a node the walk is over. -/
def turn? (w : StackWalk) : Option StackWalk :=
  w.stack.getLast?.map fun n =>
    { stack := w.stack.dropLast ++ n.children.reverse, visited := w.visited ++ [n] }

/-- The walk after a number of turns, if there are as many. -/
def after? : Nat → StackWalk → Option StackWalk
  | 0, w => some w
  | turns + 1, w => w.turn?.bind (after? turns)

/-- What the walk has still to visit, in the order in which it will. -/
def pending (w : StackWalk) : List Node := walkStack w.stack.reverse

/-- A turn visits what is pending first. There is none only when nothing is. -/
theorem turn?_cases (w : StackWalk) :
    w.turn? = none ∧ w.pending = [] ∨
      ∃ n w', w.turn? = some w' ∧ w.pending = n :: w'.pending ∧
        w'.visited = w.visited ++ [n] := by
  obtain ⟨stack, visited⟩ := w
  rcases List.eq_nil_or_concat' stack with rfl | ⟨rest, n, rfl⟩
  · refine .inl ⟨rfl, ?_⟩
    rw [pending, List.reverse_nil, walkStack]
  · refine .inr ⟨n, { stack := rest ++ n.children.reverse, visited := visited ++ [n] }, ?_, ?_, rfl⟩
    · rw [turn?, List.getLast?_concat, List.dropLast_concat, Option.map_some]
    · rw [pending, pending, List.reverse_concat, walkStack, List.reverse_append,
        List.reverse_reverse]

/-- After some turns as many nodes were visited of those that were pending. -/
theorem visited_after (turns : Nat) (w : StackWalk) :
    (w.after? turns).map visited =
      if turns ≤ w.pending.length then some (w.visited ++ w.pending.take turns) else none := by
  induction turns generalizing w with
  | zero => rw [after?, if_pos (Nat.zero_le _), List.take_zero, List.append_nil, Option.map_some]
  | succ turns ih =>
      rw [after?]
      rcases turn?_cases w with ⟨hturn, hpending⟩ | ⟨n, w', hturn, hpending, hvisited⟩
      · -- nothing is pending, so this turn is one too many
        rw [hturn, hpending]
        rfl
      · rw [hturn, Option.bind_some, ih, hpending, hvisited, List.length_cons, List.take_succ_cons,
          List.append_assoc, List.singleton_append]
        simp only [Nat.add_le_add_iff_right]

theorem visited_after_start (n : Node) (turns : Nat) :
    ((start n).after? turns).map visited =
      if turns ≤ n.walk.length then some (n.walk.take turns) else none :=
  visited_after turns (start n)

end StackWalk

/-! ## What is found in the order -/

/-- The loop, the recursion and the order agree on a tree. The loop takes one turn
for each node and is over then, having visited the nodes in document order: the
node itself, then what is below its children from the first to the last, where the
header of a table stands before the rows. Searching keeps the nodes that are asked
for, and the text joins the texts that are not empty, in that order. -/
theorem walk_in_document_order (n : Node) (ns : List Node) (joiner : String) :
    (∀ turns, ((StackWalk.start n).after? turns).map (·.visited) =
      if turns ≤ n.walk.length then some (n.walk.take turns) else none) ∧
    (∀ nodes, n.InDocumentOrder nodes ↔ nodes = n.walk) ∧
    n.walk = n.preorder ∧
    n.walk = n :: n.children.flatMap walk ∧
    (∀ (alignments : List (Option String)) (header : Node) (rows : List Node) (m : Metadata),
      (branch (.table true alignments) (header :: rows) m).walk =
        branch (.table true alignments) (header :: rows) m ::
          (header.walk ++ rows.flatMap walk)) ∧
    (∀ p, n.find p = n.walk.filter fun found => p found.kind) ∧
    n.plainText joiner =
      joiner.intercalate ((n.walk.filterMap text?).filter (!·.isEmpty)) ∧
    plainTextOf joiner ns =
      joiner.intercalate (((ns.flatMap walk).filterMap text?).filter (!·.isEmpty)) := by
  refine ⟨StackWalk.visited_after_start n, fun nodes => ?_, walk_eq_preorder n, walk_eq n, ?_,
    fun p => rfl, ?_, ?_⟩
  · rw [walk_eq_preorder, inDocumentOrder_iff]
  · intro alignments header rows m
    rw [walk_eq, children, List.flatMap_cons]
  · rw [plainText_eq, walk_eq_preorder, joinParts]
  · rw [plainTextOf_eq, preorderAll_eq_flatMap, joinParts]

end TypstPress.Node
