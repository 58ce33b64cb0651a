import Mathlib.Logic.Relation
import TypstPress.Proofs.Document.Place
import TypstPress.Proofs.Document.Preorder

/-!
# Walks that change the tree under them

A walk keeps the places still to visit on a stack. At each of them it changes
the node that stands there, and only then reads which children are there to be
visited next; a node may also refuse, and that ends the walk. Nothing about such
a loop is recursive, and the tree it ends with is a different one at every step.

What it computes is recursive all the same: visit the node, and then do the same
to the children that it has by now (`Finishes`). The two agree because a place
stays good while it waits on the stack, as all that is changed until its turn
comes stands in other subtrees. So the visit of a subtree is one replacement at
its place (`covers_of_finishes`), and the walk comes to the places of the tree
it ends with in document order, to none of them twice. At each place it finds
the node that the recursion comes to.
-/

namespace TypstPress

open Relation (ReflTransGen)

namespace Node

/-! ## The places of a tree -/

mutual

/-- The places of a tree, in document order. -/
def places : Node → List (List Nat)
  | .leaf _ _ => [[]]
  | .branch _ cs _ => [] :: placesFrom 0 cs

/-- The places in the children of a node, of which the first one has a given
position. -/
def placesFrom (i : Nat) : List Node → List (List Nat)
  | [] => []
  | n :: ns => n.places.map (i :: ·) ++ placesFrom (i + 1) ns

end

/-- What stands at the places of a tree are its nodes. -/
theorem map_at?_placesFrom {k : Branch} {m : Metadata} {ns : List Node}
    (h : ∀ n ∈ ns, n.places.map n.at? = n.preorder.map some) (before : List Node) :
    (placesFrom before.length ns).map (Node.branch k (before ++ ns) m).at? =
      (preorderAll ns).map some := by
  induction ns generalizing before with
  | nil => rw [placesFrom, preorderAll, List.map_nil, List.map_nil]
  | cons n ns ih =>
      rw [List.forall_mem_cons] at h
      have hfirst : (n.places.map (before.length :: ·)).map
          (Node.branch k (before ++ n :: ns) m).at? = n.preorder.map some := by
        rw [List.map_map, ← h.1]
        refine List.map_congr_left fun place _ => ?_
        rw [Function.comp_apply, at?_branch, List.getElem?_append_right (Nat.le_refl _),
          Nat.sub_self, List.getElem?_cons_zero, Option.bind_some]
      have hrest := ih h.2 (before ++ [n])
      rw [← List.append_cons, List.length_append, List.length_singleton] at hrest
      rw [placesFrom, preorderAll, List.map_append, List.map_append, hfirst, hrest]

theorem map_at?_places (n : Node) : n.places.map n.at? = n.preorder.map some := by
  induction n using Node.induction with
  | leaf l m => rfl
  | branch k cs m ih =>
      have hbelow := @map_at?_placesFrom k m cs ih []
      rw [List.nil_append, List.length_nil] at hbelow
      rw [places, preorder, List.map_cons, List.map_cons, hbelow]
      rfl

theorem mem_placesFrom {i : Nat} {ns : List Node} {place : List Nat} :
    place ∈ placesFrom i ns ↔
      ∃ j n below, ns[j]? = some n ∧ below ∈ n.places ∧ place = (i + j) :: below := by
  induction ns generalizing i with
  | nil => simp [placesFrom]
  | cons n ns ih =>
      rw [placesFrom, List.mem_append, List.mem_map, ih]
      constructor
      · rintro (⟨below, hbelow, rfl⟩ | ⟨j, m, below, hm, hbelow, rfl⟩)
        · exact ⟨0, n, below, rfl, hbelow, rfl⟩
        · exact ⟨j + 1, m, below, hm, hbelow, by rw [Nat.add_right_comm, Nat.add_assoc]⟩
      · rintro ⟨j, m, below, hm, hbelow, rfl⟩
        cases j with
        | zero =>
            cases hm
            exact .inl ⟨below, hbelow, rfl⟩
        | succ j => exact .inr ⟨j, m, below, hm, hbelow, by rw [Nat.add_right_comm, Nat.add_assoc]⟩

/-- A tree has the places at which something stands in it. -/
theorem mem_places {n : Node} {place : List Nat} :
    place ∈ n.places ↔ (n.at? place).isSome := by
  induction n using Node.induction generalizing place with
  | leaf l m =>
      rw [places, List.mem_singleton]
      cases place with
      | nil => exact ⟨fun _ => rfl, fun _ => rfl⟩
      | cons i below => exact ⟨nofun, nofun⟩
  | branch k cs m ih =>
      rw [places, List.mem_cons, mem_placesFrom]
      cases place with
      | nil => exact ⟨fun _ => rfl, fun _ => .inl rfl⟩
      | cons i below =>
          rw [at?_branch, or_iff_right (List.cons_ne_nil i below)]
          constructor
          · rintro ⟨j, n, below', hn, hbelow, hplace⟩
            rw [Nat.zero_add] at hplace
            cases hplace
            rw [hn, Option.bind_some]
            exact (ih n (List.mem_of_getElem? hn)).1 hbelow
          · intro hsome
            obtain ⟨found, hfound⟩ := Option.isSome_iff_exists.1 hsome
            obtain ⟨n, hn, hbelow⟩ := Option.bind_eq_some_iff.1 hfound
            refine ⟨i, n, below, hn, ?_, by rw [Nat.zero_add]⟩
            exact (ih n (List.mem_of_getElem? hn)).2 (Option.isSome_iff_exists.2 ⟨found, hbelow⟩)

theorem pairwise_placesFrom {ns : List Node}
    (h : ∀ n ∈ ns, n.places.Pairwise (List.Lex (· < ·))) (i : Nat) :
    (placesFrom i ns).Pairwise (List.Lex (· < ·)) := by
  induction ns generalizing i with
  | nil =>
      rw [placesFrom]
      exact .nil
  | cons n ns ih =>
      rw [List.forall_mem_cons] at h
      rw [placesFrom, List.pairwise_append]
      refine ⟨List.pairwise_map.2 (h.1.imp .cons), ih h.2 _, ?_⟩
      intro first hfirst second hsecond
      obtain ⟨below, -, rfl⟩ := List.mem_map.1 hfirst
      obtain ⟨j, m, below', -, -, rfl⟩ := mem_placesFrom.1 hsecond
      exact .rel (by omega)

/-- Document order is the lexicographic one: a node comes before what is below it,
and what is below an earlier child before what is below a later one. -/
theorem pairwise_places (n : Node) : n.places.Pairwise (List.Lex (· < ·)) := by
  induction n using Node.induction with
  | leaf l m => exact List.pairwise_singleton _ _
  | branch k cs m ih =>
      rw [places, List.pairwise_cons]
      refine ⟨fun place hplace => ?_, pairwise_placesFrom ih 0⟩
      obtain ⟨j, n, below, -, -, rfl⟩ := mem_placesFrom.1 hplace
      exact .nil

theorem nodup_places (n : Node) : n.places.Nodup := by
  refine (pairwise_places n).imp ?_
  rintro place _ hlex rfl
  exact List.lex_irrefl Nat.lt_irrefl place hlex

/-! ## Walks -/

/-- What a visit makes of a node, and the kind of the node if it refuses. -/
structure Visit where
  tree : Node
  refusal : Option String := none

/-- A walk: the tree by now, the places still to visit, those visited so far with
the nodes that were found there, and the kind of the node that refused. -/
structure InPlaceWalk where
  tree : Node
  stack : List (List Nat)
  visited : List (List Nat) := []
  found : List Node := []
  refusal : Option String := none

namespace InPlaceWalk

/-- The walk that has the root to visit. -/
def start (tree : Node) : InPlaceWalk := { tree, stack := [[]] }

/-- The places of the children of the node at a place. -/
def below (place : List Nat) (n : Node) : List (List Nat) :=
  (List.range' 0 n.children.length).map fun i => place ++ [i]

/-- The places that are left to visit after a node refused or did not. -/
def pending (refusal : Option String) (places : List (List Nat)) : List (List Nat) :=
  if refusal.isSome then [] else places

variable (visit : Node → Visit)

/-- Visits the node at the first place. Its children, as they are then, come
next. -/
def step? (w : InPlaceWalk) : Option InPlaceWalk :=
  match w.stack with
  | [] => none
  | place :: rest =>
    (w.tree.at? place).map fun n =>
      { tree := putAt (visit n).tree place w.tree
        stack := pending (visit n).refusal (below place (visit n).tree ++ rest)
        visited := w.visited ++ [place]
        found := w.found ++ [n]
        refusal := (visit n).refusal }

/-- One walk is the other after a step. -/
def Steps (w w' : InPlaceWalk) : Prop := step? visit w = some w'

end InPlaceWalk

/-! ## The recursion -/

mutual

/-- What becomes of a node, the nodes that were found on the way, and a refusal:
the node is visited, and then its children, as they are by then. -/
inductive Finishes (visit : Node → Visit) : Node → Node → List Node → Option String → Prop
  | refused {n n' : Node} {kindName : String}
      (h : visit n = { tree := n', refusal := some kindName }) :
      Finishes visit n n' [n] (some kindName)
  | leaf {n : Node} {l : Leaf} {m : Metadata} (h : visit n = { tree := .leaf l m }) :
      Finishes visit n (.leaf l m) [n] none
  | branch {n : Node} {k : Branch} {cs cs' found : List Node} {m : Metadata}
      {refusal : Option String} (h : visit n = { tree := .branch k cs m })
      (hcs : FinishesAll visit cs cs' found refusal) :
      Finishes visit n (.branch k cs' m) (n :: found) refusal

/-- What becomes of several nodes. Those behind one that refuses stay. -/
inductive FinishesAll (visit : Node → Visit) :
    List Node → List Node → List Node → Option String → Prop
  | nil : FinishesAll visit [] [] [] none
  | refused {n n' : Node} {found : List Node} {kindName : String}
      (h : Finishes visit n n' found (some kindName)) (ns : List Node) :
      FinishesAll visit (n :: ns) (n' :: ns) found (some kindName)
  | accepted {n n' : Node} {ns ns' found found' : List Node} {refusal : Option String}
      (h : Finishes visit n n' found none) (hns : FinishesAll visit ns ns' found' refusal) :
      FinishesAll visit (n :: ns) (n' :: ns') (found ++ found') refusal

end

/-- That a walk sees the places of a tree in order, up to the one that refuses if
there is one. -/
def SeesUpTo (refusal : Option String) (places seen : List (List Nat)) : Prop :=
  seen <+: places ∧ (refusal = none → seen = places)

variable {visit : Node → Visit} {refusal : Option String}

/-- That walks go through a subtree, wherever it stands: they put what becomes of
it in its place and go on with the places behind it, unless they were refused. -/
def Covers (visit : Node → Visit) (n n' : Node) (found : List Node) (refusal : Option String) :
    Prop :=
  ∀ (tree : Node) (place : List Nat) (rest visited : List (List Nat)) (before : List Node),
    tree.at? place = some n → ∃ seen,
      ReflTransGen (InPlaceWalk.Steps visit)
        { tree, stack := place :: rest, visited, found := before }
        { tree := putAt n' place tree
          stack := InPlaceWalk.pending refusal rest
          visited := visited ++ seen.map (place ++ ·)
          found := before ++ found
          refusal } ∧
      SeesUpTo refusal n'.places seen

/-- That walks go through the children of a node, from some position on. -/
def CoversAll (visit : Node → Visit) (ns ns' found : List Node) (refusal : Option String) : Prop :=
  ∀ (k : Branch) (left : List Node) (m : Metadata) (tree : Node) (place : List Nat)
    (rest visited : List (List Nat)) (before : List Node),
    tree.at? place = some (.branch k (left ++ ns) m) → ∃ seen,
      ReflTransGen (InPlaceWalk.Steps visit)
        { tree
          stack := (List.range' left.length ns.length).map (fun i => place ++ [i]) ++ rest
          visited
          found := before }
        { tree := putAt (.branch k (left ++ ns') m) place tree
          stack := InPlaceWalk.pending refusal rest
          visited := visited ++ seen.map (place ++ ·)
          found := before ++ found
          refusal } ∧
      SeesUpTo refusal (placesFrom left.length ns') seen

theorem InPlaceWalk.steps_of_at? {tree n : Node} {place : List Nat} {v : Visit}
    (hn : tree.at? place = some n) (hvisit : visit n = v) (rest visited : List (List Nat))
    (before : List Node) :
    Steps visit { tree, stack := place :: rest, visited, found := before }
      { tree := putAt v.tree place tree
        stack := pending v.refusal (below place v.tree ++ rest)
        visited := visited ++ [place]
        found := before ++ [n]
        refusal := v.refusal } := by
  subst hvisit
  simp only [Steps, step?, hn, Option.map_some]

/-- A node below which there is nothing to visit. -/
theorem covers_of_single {n : Node} {v : Visit} (hvisit : visit n = v)
    (hstack : ∀ place rest, InPlaceWalk.pending v.refusal
      (InPlaceWalk.below place v.tree ++ rest) = InPlaceWalk.pending v.refusal rest)
    (hseen : SeesUpTo v.refusal v.tree.places [[]]) :
    Covers visit n v.tree [n] v.refusal := by
  intro tree place rest visited before hn
  refine ⟨[[]], .single ?_, hseen⟩
  have hstep := InPlaceWalk.steps_of_at? hn hvisit rest visited before
  rw [hstack] at hstep
  rw [List.map_singleton, List.append_nil]
  exact hstep

theorem covers_branch {n : Node} {k : Branch} {cs cs' found : List Node} {m : Metadata}
    (hvisit : visit n = { tree := .branch k cs m }) (hcs : CoversAll visit cs cs' found refusal) :
    Covers visit n (.branch k cs' m) (n :: found) refusal := by
  intro tree place rest visited before hn
  have hstep := InPlaceWalk.steps_of_at? hn hvisit rest visited before
  obtain ⟨seen, hwalk, hbegins, hall⟩ := hcs k [] m (putAt (.branch k cs m) place tree) place rest
    (visited ++ [place]) (before ++ [n]) (at?_putAt hn)
  rw [putAt_putAt, List.append_assoc, List.append_assoc] at hwalk
  refine ⟨[] :: seen, ?_, ?_⟩
  · rw [List.map_cons, List.append_nil]
    exact .head hstep hwalk
  · rw [places]
    exact ⟨List.cons_prefix_cons.2 ⟨rfl, hbegins⟩, fun hnone => congrArg _ (hall hnone)⟩

/-- The first child, and the tree it leaves to those behind it. -/
theorem exists_first {k : Branch} {left ns found : List Node} {m : Metadata} {n n' tree : Node}
    {place : List Nat} (hcover : Covers visit n n' found refusal)
    (hplace : tree.at? place = some (.branch k (left ++ n :: ns) m))
    (rest visited : List (List Nat)) (before : List Node) : ∃ seen,
      ReflTransGen (InPlaceWalk.Steps visit)
        { tree
          stack := (List.range' left.length (n :: ns).length).map (fun i => place ++ [i]) ++ rest
          visited
          found := before }
        { tree := putAt (.branch k (left ++ n' :: ns) m) place tree
          stack := InPlaceWalk.pending refusal
            ((List.range' (left.length + 1) ns.length).map (fun i => place ++ [i]) ++ rest)
          visited := visited ++ (seen.map (left.length :: ·)).map (place ++ ·)
          found := before ++ found
          refusal } ∧
      SeesUpTo refusal n'.places seen := by
  have hchild : tree.at? (place ++ [left.length]) = some n := by
    rw [at?_append, hplace, Option.bind_some, at?_branch,
      List.getElem?_append_right (Nat.le_refl _), Nat.sub_self]
    rfl
  obtain ⟨seen, hwalk, hseen⟩ := hcover tree (place ++ [left.length])
    ((List.range' (left.length + 1) ns.length).map (fun i => place ++ [i]) ++ rest) visited before
    hchild
  have hput : putAt n' (place ++ [left.length]) tree =
      putAt (.branch k (left ++ n' :: ns) m) place tree := by
    rw [putAt_child hplace, List.set_append_right _ _ (Nat.le_refl _), Nat.sub_self,
      List.set_cons_zero]
  have hplaces : seen.map (place ++ [left.length] ++ ·) =
      (seen.map (left.length :: ·)).map (place ++ ·) := by
    rw [List.map_map]
    exact List.map_congr_left fun below _ => (List.append_cons ..).symm
  rw [hput, hplaces] at hwalk
  refine ⟨seen, ?_, hseen⟩
  rw [List.length_cons, List.range'_succ, List.map_cons, List.cons_append]
  exact hwalk

theorem coversAll_refused {n n' : Node} {found : List Node} {kindName : String}
    (hcover : Covers visit n n' found (some kindName)) (ns : List Node) :
    CoversAll visit (n :: ns) (n' :: ns) found (some kindName) := by
  intro k left m tree place rest visited before hplace
  obtain ⟨seen, hwalk, hbegins, -⟩ := exists_first hcover hplace rest visited before
  refine ⟨_, hwalk, ?_, nofun⟩
  rw [placesFrom]
  exact (hbegins.map _).trans (List.prefix_append ..)

theorem coversAll_accepted {n n' : Node} {ns ns' found found' : List Node}
    (hcover : Covers visit n n' found none) (hns : CoversAll visit ns ns' found' refusal) :
    CoversAll visit (n :: ns) (n' :: ns') (found ++ found') refusal := by
  intro k left m tree place rest visited before hplace
  obtain ⟨seen, hwalk, -, hseen⟩ := exists_first hcover hplace rest visited before
  -- the child that is finished joins those before the rest
  have hplace' : (putAt (.branch k (left ++ n' :: ns) m) place tree).at? place =
      some (.branch k (left ++ n' :: ns) m) := at?_putAt hplace
  rw [List.append_cons] at hplace'
  obtain ⟨seen', hwalk', hbegins', hseen'⟩ := hns k (left ++ [n']) m _ place rest
    (visited ++ (seen.map (left.length :: ·)).map (place ++ ·)) (before ++ found) hplace'
  rw [List.length_append, List.length_singleton] at hwalk' hbegins' hseen'
  rw [putAt_putAt, ← List.append_cons, ← List.append_cons, List.append_assoc visited,
    List.append_assoc before, ← List.map_append] at hwalk'
  refine ⟨_, hwalk.trans hwalk', ?_, fun hnone => ?_⟩
  · rw [placesFrom, hseen rfl]
    exact (List.prefix_append_right_inj _).2 hbegins'
  · rw [placesFrom, hseen rfl, hseen' hnone]

mutual

/-- A walk through a subtree does what the recursion does. -/
theorem covers_of_finishes {n n' : Node} {found : List Node} {refusal : Option String}
    (h : Finishes visit n n' found refusal) : Covers visit n n' found refusal := by
  match h with
  | .refused hvisit =>
      refine covers_of_single hvisit (fun _ _ => rfl) ⟨?_, nofun⟩
      cases n' with
      | leaf l m => exact List.prefix_rfl
      | branch k cs m => exact ⟨_, by rw [places]; rfl⟩
  | .leaf hvisit => exact covers_of_single hvisit (fun _ _ => rfl) ⟨List.prefix_rfl, fun _ => rfl⟩
  | .branch hvisit hcs => exact covers_branch hvisit (coversAll_of_finishesAll hcs)

theorem coversAll_of_finishesAll {ns ns' found : List Node} {refusal : Option String}
    (h : FinishesAll visit ns ns' found refusal) : CoversAll visit ns ns' found refusal := by
  match h with
  | .nil =>
      intro k left m tree place rest visited before hplace
      refine ⟨[], ?_, ?_⟩
      · rw [putAt_self hplace, List.map_nil, List.append_nil, List.append_nil]
        exact .refl
      · rw [placesFrom]
        exact ⟨List.prefix_rfl, fun _ => rfl⟩
  | .refused hn ns => exact coversAll_refused (covers_of_finishes hn) ns
  | .accepted hn hns =>
      exact coversAll_accepted (covers_of_finishes hn) (coversAll_of_finishesAll hns)

end

/-- A walk from the root ends with what the recursion makes of the tree, and has
found the nodes that the recursion comes to. It comes to the nodes of the tree it
ends with in document order and to none of them twice, and it leaves out none
unless it was refused. -/
theorem exists_walk_of_finishes {tree tree' : Node} {found : List Node}
    (h : Finishes visit tree tree' found refusal) :
    ∃ w, ReflTransGen (InPlaceWalk.Steps visit) (.start tree) w ∧ w.stack = [] ∧
      w.tree = tree' ∧ w.found = found ∧ w.refusal = refusal ∧ w.visited.Nodup ∧
      w.visited.map w.tree.at? <+: w.tree.preorder.map some ∧
      (refusal = none → w.visited.map w.tree.at? = w.tree.preorder.map some) := by
  obtain ⟨seen, hwalk, hbegins, hseen⟩ := covers_of_finishes h tree [] [] [] [] rfl
  have hvisited : seen.map ([] ++ ·) = seen := List.map_id seen
  rw [List.nil_append, List.nil_append, hvisited] at hwalk
  refine ⟨_, hwalk, ite_self [], rfl, rfl, rfl, hbegins.sublist.nodup (nodup_places tree'), ?_, ?_⟩
  · show seen.map tree'.at? <+: _
    rw [← map_at?_places]
    exact hbegins.map _
  · intro hnone
    show seen.map tree'.at? = tree'.preorder.map some
    rw [hseen hnone, map_at?_places]

end Node

end TypstPress
