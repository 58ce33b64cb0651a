import TypstPress.Proofs.Document.InPlaceWalk
import TypstPress.Proofs.Transform.BlockRecursion
import TypstPress.Proofs.Transform.Commuting

/-!
# The walk that moves blocks

Blocks are moved while the tree is being walked: each container that the walk
comes to has the blocks among its children moved, and the walk goes on to the
children that are there then. This file says that such a walk does what the
recursion does, which moves the blocks of the children first.

Moving blocks below a child does not change which texts its parent uses up, so
the order does not matter (`attachTrees_kept`), and the recursion is the one that
the walk carries out (`reaches_attachTree`). What the walk finds is the other
half of the story: as long as nothing refuses, it comes to every container once,
in document order, and finds it as it was at the start, because the texts that are
gone by then were not containers.
-/

namespace TypstPress.ImageAttributes

open Node AttributeBlock

open Relation (ReflTransGen)

/-- Moves the blocks among the children of a node. -/
def visit (n : Node) : Visit := { tree := (attach n).tree, refusal := (attach n).refusal }

/-- The nodes that may have children, of a list. -/
def containers (ns : List Node) : List Node :=
  ns.filter fun n => match n with
    | .leaf _ _ => false
    | .branch _ _ _ => true

/-- The nodes that are seen, of a list, up to the first one that refuses; the
refusal is its kind. -/
inductive SeenUpTo : Option String → List Node → List Node → Prop
  | nil : SeenUpTo none [] []
  | refused {n : Node} {kindName : String} (h : (attach n).refusal = some kindName)
      (behind : List Node) : SeenUpTo (some kindName) (n :: behind) [n]
  | accepted {refusal : Option String} {n : Node} {ns seen : List Node}
      (h : (attach n).refusal = none) (hns : SeenUpTo refusal ns seen) :
      SeenUpTo refusal (n :: ns) (n :: seen)

variable {refusal : Option String} {ns ns' seen seen' : List Node}

theorem SeenUpTo.append_of_accepted (h : SeenUpTo none ns seen) (h' : SeenUpTo refusal ns' seen') :
    SeenUpTo refusal (ns ++ ns') (seen ++ seen') := by
  generalize haccepted : none = accepted at h
  induction h with
  | nil => exact h'
  | refused => cases haccepted
  | accepted hn _ ih => exact .accepted hn (ih haccepted)

theorem SeenUpTo.append_of_refused {kindName : String} (h : SeenUpTo (some kindName) ns seen)
    (ns' : List Node) : SeenUpTo (some kindName) (ns ++ ns') seen := by
  generalize hrefused : some kindName = refused at h ⊢
  induction h with
  | nil => cases hrefused
  | refused hn behind => exact .refused hn (behind ++ ns')
  | accepted hn _ ih => exact .accepted hn (ih hrefused)

/-- A walk is refused if a node of the list refuses. -/
theorem SeenUpTo.ne_none_iff (h : SeenUpTo refusal ns seen) :
    refusal ≠ none ↔ ∃ n ∈ ns, (attach n).refusal ≠ none := by
  induction h with
  | nil => simp
  | refused hn behind => simp [hn]
  | accepted hn _ ih => simp [hn, ih]

/-- If none does, all are seen. -/
theorem SeenUpTo.eq_of_accepted (h : SeenUpTo none ns seen) : seen = ns := by
  generalize haccepted : none = accepted at h
  induction h with
  | nil => rfl
  | refused => cases haccepted
  | accepted hn _ ih => rw [ih haccepted]

/-! ## Containers stay where they are -/

theorem containers_append (ns ns' : List Node) :
    containers (ns ++ ns') = containers ns ++ containers ns' :=
  List.filter_append ..

theorem containers_leaf_cons (l : Leaf) (m : Metadata) (ns : List Node) :
    containers (.leaf l m :: ns) = containers ns := rfl

/-- Moving blocks takes no container away and brings none. -/
theorem containers_kept (left? : Option Node) (cs : List Node) :
    containers (preorderAll (kept (outcomes left? cs))) = containers (preorderAll cs) := by
  induction cs generalizing left? with
  | nil => rfl
  | cons n ns ih =>
      cases n with
      | leaf l m =>
          obtain ⟨l', hleaf⟩ := exists_leaf_of_between left? ns.head? l m
          rw [outcomes, kept_cons, preorderAll, preorder, List.singleton_append,
            containers_leaf_cons]
          split
          · exact ih _
          · dsimp only
            rw [hleaf, preorderAll, preorder, List.singleton_append, containers_leaf_cons]
            exact ih _
      | branch k cs m =>
          rw [kept_outcomes_branch, preorderAll, preorderAll, containers_append, containers_append,
            ih]

theorem moved_eq_kept (cs : List Node) : moved cs = kept (outcomes none cs) := by
  rw [moved, moveBlocks_eq_outcomes]
  rfl

theorem containers_moved (cs : List Node) :
    containers (preorderAll (moved cs)) = containers (preorderAll cs) := by
  rw [moved_eq_kept, containers_kept]

/-! ## The walk is a recursion -/

/-- That a walk makes of a tree what the recursion makes of it, and finds its
containers up to the first one that refuses. -/
def Reaches (n : Node) : Prop :=
  ∃ found, Finishes visit n (attachTree n).tree found (attachTree n).refusal ∧
    SeenUpTo (attachTree n).refusal (containers n.preorder) (containers found)

theorem reaches_leaf (l : Leaf) (m : Metadata) : Reaches (.leaf l m) := by
  rw [Reaches, attachTree]
  exact ⟨[.leaf l m], .leaf rfl, .nil⟩

theorem reaches_attachTrees {ns : List Node} (h : ∀ n ∈ ns, Reaches n) :
    ∃ found, FinishesAll visit ns (attachTrees ns).1 found (attachTrees ns).2.2 ∧
      SeenUpTo (attachTrees ns).2.2 (containers (preorderAll ns)) (containers found) := by
  induction ns with
  | nil =>
      rw [attachTrees]
      exact ⟨[], .nil, .nil⟩
  | cons n ns ih =>
      rw [List.forall_mem_cons] at h
      obtain ⟨found, hfirst, hseen⟩ := h.1
      rw [preorderAll, containers_append]
      cases hrefusal : (attachTree n).refusal with
      | some kindName =>
          rw [attachTrees_cons_of_refused hrefusal]
          rw [hrefusal] at hfirst hseen
          exact ⟨found, .refused hfirst ns, hseen.append_of_refused _⟩
      | none =>
          obtain ⟨found', hrest, hseen'⟩ := ih h.2
          rw [attachTrees_cons_of_accepted hrefusal]
          rw [hrefusal] at hfirst hseen
          refine ⟨found ++ found', .accepted hfirst hrest, ?_⟩
          rw [containers_append]
          exact hseen.append_of_accepted hseen'

/-- Moving blocks is the recursion that a walk carries out. -/
theorem reaches_attachTree (n : Node) : Reaches n := by
  induction n using Node.induction with
  | leaf l m => exact reaches_leaf l m
  | branch k cs m ih =>
      by_cases hrefused : k.acceptsChildren = false ∧ HoldsWholeBlock cs
      · have hrefusal := (refusal_attach_branch k cs m k.name).2 ⟨rfl, hrefused⟩
        rw [Reaches, attachTree_of_refused hrefusal, hrefusal]
        exact ⟨[.branch k cs m], .refused (by rw [visit, hrefusal]), .refused hrefusal _⟩
      · -- the walk goes on to the children that stay
        obtain ⟨htree, hrefusal⟩ := attach_of_accepted hrefused m
        obtain ⟨hfinished, hbelow⟩ := attachTree_of_accepted hrefused m
        have hmoved : ∀ n ∈ moved cs, Reaches n := fun n hmem => by
          rcases mem_moved hmem with hold | ⟨⟨l, m', rfl⟩, -⟩
          · exact ih n hold
          · exact reaches_leaf l m'
        obtain ⟨found, hfinishes, hseen⟩ := reaches_attachTrees hmoved
        -- what is used up was gone before the children were finished, and not after
        have hkept : attachTrees (moved cs) = (moved (attachTrees cs).1, (attachTrees cs).2) := by
          rw [moved_eq_kept, moved_eq_kept]
          exact attachTrees_kept .none cs
        rw [hkept] at hfinishes hseen
        rw [containers_moved] at hseen
        rw [Reaches, hfinished, hbelow]
        exact ⟨.branch k cs m :: found, .branch (by rw [visit, htree, hrefusal]) hfinishes,
          .accepted hrefusal hseen⟩

/-! ## Documents -/

theorem exists_refusing_iff (ns : List Node) :
    (∃ n ∈ containers ns, (attach n).refusal ≠ none) ↔
      ∃ k cs m, .branch k cs m ∈ ns ∧ k.acceptsChildren = false ∧ HoldsWholeBlock cs := by
  constructor
  · rintro ⟨n, hn, hrefuses⟩
    obtain ⟨hmem, hcontainer⟩ := List.mem_filter.1 hn
    cases n with
    | leaf l m => cases hcontainer
    | branch k cs m =>
        obtain ⟨kindName, hrefusal⟩ := Option.ne_none_iff_exists'.1 hrefuses
        exact ⟨k, cs, m, hmem, ((refusal_attach_branch k cs m kindName).1 hrefusal).2⟩
  · rintro ⟨k, cs, m, hmem, hrefused⟩
    refine ⟨.branch k cs m, List.mem_filter.2 ⟨hmem, rfl⟩, ?_⟩
    rw [(refusal_attach_branch k cs m k.name).2 ⟨rfl, hrefused⟩]
    exact Option.some_ne_none _

theorem failure_run_imageAttributes {document : Node} (h : document.isDocument = true) :
    (Transform.imageAttributes.run document).failure =
      (attachTree document).refusal.map Failure.fixedChildren := by
  rw [Transform.run_of_isDocument _ h, Transform.apply, apply]
  cases (attachTree document).refusal with
  | none => rfl
  | some kindName => rfl

/-- Moving the blocks of a document by a walk with a stack, in a tree that
changes under the walk, is one recursion on the tree as it was. The walk ends,
with the tree and the failure of the transform. It fails exactly if a branch that
does not let its children be replaced holds an image with a text after it that
is a block and nothing else, and otherwise its tree is the settled one. It sees
the containers of the document in order, each of them once and as it was, up to
the first one that refuses. -/
theorem walk_settles {document : Node} (h : document.isDocument = true) :
    ∃ w, ReflTransGen (InPlaceWalk.Steps visit) (.start document) w ∧ w.stack = [] ∧
      (Transform.imageAttributes.run document).tree = w.tree ∧
      (Transform.imageAttributes.run document).failure = w.refusal.map Failure.fixedChildren ∧
      SeenUpTo w.refusal (containers document.preorder) (containers w.found) ∧
      ((Transform.imageAttributes.run document).failure ≠ none ↔
        ∃ k cs m, .branch k cs m ∈ document.preorder ∧ k.acceptsChildren = false ∧
          HoldsWholeBlock cs) ∧
      ((Transform.imageAttributes.run document).failure = none →
        (Transform.imageAttributes.run document).tree = settled document ∧
          containers w.found = containers document.preorder) := by
  obtain ⟨found, hfinishes, hseen⟩ := reaches_attachTree document
  obtain ⟨w, hwalk, hstack, hwtree, hfound, hrefusal, -⟩ := exists_walk_of_finishes hfinishes
  have htree := (Transform.tree_run_imageAttributes h).trans hwtree.symm
  have hfailure := failure_run_imageAttributes h
  rw [← hrefusal] at hfailure hseen
  rw [← hfound] at hseen
  refine ⟨w, hwalk, hstack, htree, hfailure, hseen, ?_, fun hnone => ⟨?_, ?_⟩⟩
  · rw [hfailure, ← exists_refusing_iff, ← hseen.ne_none_iff]
    exact not_congr Option.map_eq_none_iff
  · rw [hfailure, Option.map_eq_none_iff, hrefusal] at hnone
    exact (Transform.tree_run_imageAttributes h).trans (attached_eq_settled hnone)
  · rw [hfailure, Option.map_eq_none_iff] at hnone
    rw [hnone] at hseen
    exact hseen.eq_of_accepted

/-- An image inside a directive with a block and the same block again behind it,
and another one with an empty text behind it. -/
def galleryDocument : Node :=
  .ofBranch .document
    [.ofBranch (.containerDirective "figure" [])
      [.ofBranch .paragraph
        [.ofLeaf (.image "u" "" none [("a", some "1"), ("b", some "2")]), .ofText "\x7ba\x7d",
          .ofText "\x7ba\x7d", .ofLeaf (.image "v" "" none []), .ofText ""]]]

/-- The second block comes to stand behind the image and stays, and so does the
text that was empty before. -/
theorem walk_settles_gallery :
    galleryDocument.isDocument = true ∧
      (Transform.imageAttributes.run galleryDocument).failure = none ∧
      (Transform.imageAttributes.run galleryDocument).tree =
        .ofBranch .document
          [.ofBranch (.containerDirective "figure" [])
            [.ofBranch .paragraph
              [.ofLeaf (.image "u" "" none [("a", none), ("b", some "2")]), .ofText "\x7ba\x7d",
                .ofLeaf (.image "v" "" none []), .ofText ""]]] := by
  have hdocument : galleryDocument.isDocument = true := by decide
  obtain ⟨w, -, -, -, -, -, hrefuses, hsettled⟩ := walk_settles hdocument
  have hnone : (Transform.imageAttributes.run galleryDocument).failure = none := by
    refine Classical.byContradiction fun hfailed => ?_
    obtain ⟨k, cs, m, hmem, hk, -⟩ := hrefuses.1 hfailed
    simp only [galleryDocument, ofBranch, ofLeaf, ofText, preorder, preorderAll, List.cons_append,
      List.nil_append, List.mem_cons, Node.branch.injEq, List.not_mem_nil, or_false, reduceCtorEq]
      at hmem
    obtain ⟨rfl, -⟩ | ⟨rfl, -⟩ | ⟨rfl, -⟩ := hmem
    all_goals cases hk
  have hempty : parse "" = none := by decide
  refine ⟨hdocument, hnone, ?_⟩
  rw [(hsettled hnone).1]
  simp [galleryDocument, ofBranch, ofLeaf, ofText, settled, settledAmong, between, isUsedUp,
    passed?, isImage, block?, parse_bare, hempty, withAttributes, Attributes.update,
    Attributes.put]

end TypstPress.ImageAttributes
