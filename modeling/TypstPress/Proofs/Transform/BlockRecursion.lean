import TypstPress.Proofs.Transform.MovedBlocks

/-!
# Moving blocks as one recursion

`attachTree` looks at every list of children twice, once to see whether its node
refuses and once to move the blocks among what has become of the children, and
it leaves off where a node refuses. `settled` looks once, at the children as
they were at the start, and never leaves off. Where nothing refuses the two are
the same (`attached_eq_settled`).

All of this rests on what neighbours can see of each other. They see which leaf
a leaf is, and of a branch no more than that it is one; two nodes with nothing
to tell them apart are interchangeable as neighbours (`LooksLike`). What is done
below a branch does not show, and what moving blocks makes of a leaf is a leaf.
So it does not matter whether the children that are used up are left out before
or after the others are finished (`attachTrees_kept`).
-/

namespace TypstPress.ImageAttributes

open Node

/-! ## What neighbours see -/

/-- Two nodes that neighbours cannot tell apart: the same leaf, or two branches. -/
inductive LooksLike : Node → Node → Prop
  | leaf (l : Leaf) (m : Metadata) : LooksLike (.leaf l m) (.leaf l m)
  | branch (k k' : Branch) (cs cs' : List Node) (m m' : Metadata) :
      LooksLike (.branch k cs m) (.branch k' cs' m')

variable {left? left'? right? right'? : Option Node} {n n' : Node} {cs : List Node}

theorem LooksLike.refl (n : Node) : LooksLike n n := by
  cases n with
  | leaf l m => exact .leaf l m
  | branch k cs m => exact .branch k k cs cs m m

theorem isImage_of_looksLike (h : LooksLike n n') : isImage n = isImage n' := by
  cases h with
  | leaf l m => rfl
  | branch => rfl

theorem block?_of_looksLike (h : LooksLike n n') : block? n = block? n' := by
  cases h with
  | leaf l m => rfl
  | branch => rfl

theorem passed?_of_looksLike (hleft : Option.Rel LooksLike left? left'?) (h : LooksLike n n') :
    passed? left? n = passed? left'? n' := by
  rw [passed?, passed?, block?_of_looksLike h]
  cases hleft with
  | none => rfl
  | some hleft => rw [Option.any_some, Option.any_some, isImage_of_looksLike hleft]

theorem between_of_looksLike (hleft : Option.Rel LooksLike left? left'?)
    (hright : Option.Rel LooksLike right? right'?) (n : Node) :
    between left? right? n = between left'? right'? n := by
  have hbehind : right?.bind (passed? (some n)) = right'?.bind (passed? (some n)) := by
    cases hright with
    | none => rfl
    | some hright => exact passed?_of_looksLike (.some (.refl n)) hright
  rw [between, between, passed?_of_looksLike hleft (.refl n), hbehind]

theorem head?_of_looksLike {cs' : List Node} (h : List.Forall₂ LooksLike cs cs') :
    Option.Rel LooksLike cs.head? cs'.head? := by
  cases h with
  | nil => exact .none
  | cons hn _ => exact .some hn

theorem outcomes_of_looksLike (hleft : Option.Rel LooksLike left? left'?) (cs : List Node) :
    outcomes left? cs = outcomes left'? cs := by
  cases cs with
  | nil => rfl
  | cons n ns =>
      rw [outcomes, outcomes, isUsedUp, isUsedUp, between, between,
        passed?_of_looksLike hleft (.refl n)]

theorem passed?_branch (k : Branch) (cs : List Node) (m : Metadata) :
    passed? left? (.branch k cs m) = none := by
  rw [passed?]
  exact ite_self none

/-- Between its neighbours a branch stays as it is. -/
theorem between_branch (k : Branch) (cs : List Node) (m : Metadata) :
    between left? right? (.branch k cs m) = .branch k cs m := by
  have hright : right?.bind (passed? (some (.branch k cs m))) = none := by
    cases right? with
    | none => rfl
    | some right => rfl
  rw [between, hright, passed?_branch]

theorem isUsedUp_branch (k : Branch) (cs : List Node) (m : Metadata) :
    isUsedUp left? (.branch k cs m) = false := by
  rw [isUsedUp, passed?_branch]
  rfl

theorem exists_leaf_of_between (left? right? : Option Node) (l : Leaf) (m : Metadata) :
    ∃ l', between left? right? (.leaf l m) = .leaf l' m := by
  unfold between
  split
  · cases l with
    | text content => exact ⟨_, rfl⟩
    | _ => exact ⟨_, rfl⟩
  · cases l with
    | image url altText title attributes => exact ⟨_, rfl⟩
    | imageReference identifier label form altText attributes => exact ⟨_, rfl⟩
    | _ => exact ⟨_, rfl⟩
  · exact ⟨l, rfl⟩

/-! ## Moving blocks in finished children -/

theorem usedUp_of_looksLike {cs' : List Node} (hleft : Option.Rel LooksLike left? left'?)
    (h : List.Forall₂ LooksLike cs cs') :
    (outcomes left? cs).map (·.usedUp) = (outcomes left'? cs').map (·.usedUp) := by
  induction h generalizing left? left'? with
  | nil => rfl
  | cons hn _ ih =>
      rw [outcomes, outcomes, List.map_cons, List.map_cons, isUsedUp, isUsedUp,
        passed?_of_looksLike hleft hn, ih (.some hn)]

theorem holdsWholeBlock_of_looksLike {cs' : List Node} (h : List.Forall₂ LooksLike cs cs') :
    HoldsWholeBlock cs ↔ HoldsWholeBlock cs' := by
  have hany : ∀ ns : List Node, (outcomes none ns).any (·.usedUp) =
      ((outcomes none ns).map (·.usedUp)).any id := fun ns => by
    rw [List.any_map]
    rfl
  rw [← any_usedUp_iff, ← any_usedUp_iff, hany, hany, usedUp_of_looksLike .none h]

theorem exists_tree_attach (k : Branch) (cs : List Node) (m : Metadata) :
    ∃ cs', (attach (.branch k cs m)).tree = .branch k cs' m := by
  rw [attach]
  dsimp only
  split
  · split
    · exact ⟨_, rfl⟩
    · exact ⟨_, rfl⟩
  · exact ⟨_, rfl⟩

theorem attachTree_of_refused {k : Branch} {m : Metadata} {kindName : String}
    (h : (attach (.branch k cs m)).refusal = some kindName) :
    attachTree (.branch k cs m) = attach (.branch k cs m) := by
  rw [attachTree]
  simp only [h]

theorem exists_tree_attachTree (k : Branch) (cs : List Node) (m : Metadata) :
    ∃ cs', (attachTree (.branch k cs m)).tree = .branch k cs' m := by
  cases hrefusal : (attach (.branch k cs m)).refusal with
  | some kindName =>
      rw [attachTree_of_refused hrefusal]
      exact exists_tree_attach k cs m
  | none =>
      rw [attachTree]
      simp only [hrefusal]
      exact exists_tree_attach k _ m

theorem attachTree_looksLike (n : Node) : LooksLike n (attachTree n).tree := by
  cases n with
  | leaf l m =>
      rw [attachTree]
      exact .leaf l m
  | branch k cs m =>
      obtain ⟨cs', htree⟩ := exists_tree_attachTree k cs m
      rw [htree]
      exact .branch k k cs cs' m m

theorem attachTrees_looksLike (ns : List Node) : List.Forall₂ LooksLike ns (attachTrees ns).1 := by
  induction ns with
  | nil =>
      rw [attachTrees]
      exact .nil
  | cons n ns ih =>
      rw [attachTrees]
      dsimp only
      split
      · exact .cons (attachTree_looksLike n) (List.forall₂_same.2 fun n _ => .refl n)
      · exact .cons (attachTree_looksLike n) ih

/-- Where a branch does not refuse, its blocks are moved among its finished
children just as among the original ones. -/
theorem attachTree_of_accepted {k : Branch} (h : ¬ (k.acceptsChildren = false ∧ HoldsWholeBlock cs))
    (m : Metadata) :
    (attachTree (.branch k cs m)).tree = .branch k (moved (attachTrees cs).1) m ∧
      (attachTree (.branch k cs m)).refusal = (attachTrees cs).2.2 := by
  have hfinished : ¬ (k.acceptsChildren = false ∧ HoldsWholeBlock (attachTrees cs).1) := by
    rwa [← holdsWholeBlock_of_looksLike (attachTrees_looksLike cs)]
  rw [attachTree]
  simp only [(attach_of_accepted h m).2, (attach_of_accepted hfinished m).1, and_self]

/-- The nodes that stay, of those that were given their blocks. -/
def kept (children : List Child) : List Node := (children.filter (!·.usedUp)).map (·.node)

theorem kept_cons (child : Child) (children : List Child) :
    kept (child :: children) =
      if child.usedUp then kept children else child.node :: kept children := by
  cases hused : child.usedUp with
  | true => simp [kept, hused]
  | false => simp [kept, hused]

theorem kept_outcomes_branch (k : Branch) (cs : List Node) (m : Metadata) (ns : List Node) :
    kept (outcomes left? (.branch k cs m :: ns)) =
      .branch k cs m :: kept (outcomes (some (.branch k cs m)) ns) := by
  rw [outcomes, kept_cons]
  dsimp only
  rw [isUsedUp_branch, if_neg Bool.false_ne_true, between_branch]

theorem attachTrees_cons_of_refused {kindName : String} (h : (attachTree n).refusal = some kindName)
    (ns : List Node) :
    attachTrees (n :: ns) = ((attachTree n).tree :: ns, (attachTree n).count, some kindName) := by
  rw [attachTrees]
  simp only [h]

theorem attachTrees_cons_of_accepted (h : (attachTree n).refusal = none) (ns : List Node) :
    attachTrees (n :: ns) =
      ((attachTree n).tree :: (attachTrees ns).1, (attachTree n).count + (attachTrees ns).2.1,
        (attachTrees ns).2.2) := by
  rw [attachTrees]
  simp only [h]

theorem attachTrees_leaf_cons (l : Leaf) (m : Metadata) (ns : List Node) :
    attachTrees (.leaf l m :: ns) = (.leaf l m :: (attachTrees ns).1, (attachTrees ns).2) := by
  rw [attachTrees, attachTree]
  simp only [Nat.zero_add]

/-- Walking down the children that stay is walking down all of them and leaving
out the same ones. -/
theorem attachTrees_kept (hleft : Option.Rel LooksLike left? left'?) (cs : List Node) :
    attachTrees (kept (outcomes left? cs)) =
      (kept (outcomes left'? (attachTrees cs).1), (attachTrees cs).2) := by
  induction cs generalizing left? left'? with
  | nil => rfl
  | cons n ns ih =>
      cases n with
      | leaf l m =>
          have hnode := between_of_looksLike hleft (head?_of_looksLike (attachTrees_looksLike ns))
            (.leaf l m)
          have hused : isUsedUp left'? (.leaf l m) = isUsedUp left? (.leaf l m) := by
            rw [isUsedUp, isUsedUp, passed?_of_looksLike hleft (.refl _)]
          have hrest := ih (.some (.refl (.leaf l m)))
          rw [attachTrees_leaf_cons, outcomes, outcomes, kept_cons, kept_cons]
          dsimp only
          rw [hused, ← hnode]
          split
          · exact hrest
          · obtain ⟨l', hleaf⟩ := exists_leaf_of_between left? ns.head? l m
            rw [hleaf, attachTrees_leaf_cons, hrest]
      | branch k cs m =>
          obtain ⟨cs', htree⟩ := exists_tree_attachTree k cs m
          have hlooks := LooksLike.branch k k cs cs' m m
          rw [kept_outcomes_branch]
          cases hrefusal : (attachTree (.branch k cs m)).refusal with
          | some kindName =>
              rw [attachTrees_cons_of_refused hrefusal, attachTrees_cons_of_refused hrefusal, htree]
              dsimp only
              rw [kept_outcomes_branch, outcomes_of_looksLike (.some hlooks)]
          | none =>
              rw [attachTrees_cons_of_accepted hrefusal, attachTrees_cons_of_accepted hrefusal,
                htree, ih (.some hlooks)]
              dsimp only
              rw [kept_outcomes_branch]

/-! ## The recursion -/

mutual

/-- The tree with its blocks moved, told by the lists of children as they were at
the start. -/
def settled : Node → Node
  | .leaf l m => .leaf l m
  | .branch k cs m => .branch k (settledAmong none cs) m

/-- What becomes of the nodes of a list behind a node: those that are used up are
left out, and each of the others is settled between its neighbours. -/
def settledAmong (left? : Option Node) : List Node → List Node
  | [] => []
  | n :: ns =>
    if isUsedUp left? n then settledAmong (some n) ns
    else between left? ns.head? (settled n) :: settledAmong (some n) ns

end

theorem settled_looksLike (n : Node) : LooksLike n (settled n) := by
  cases n with
  | leaf l m =>
      rw [settled]
      exact .leaf l m
  | branch k cs m =>
      rw [settled]
      exact .branch k k cs _ m m

theorem settledAmong_eq (hleft : Option.Rel LooksLike left? left'?) (cs : List Node) :
    settledAmong left? cs = kept (outcomes left'? (cs.map settled)) := by
  induction cs generalizing left? left'? with
  | nil =>
      rw [settledAmong]
      rfl
  | cons n ns ih =>
      have hn := settled_looksLike n
      have hright : Option.Rel LooksLike ns.head? (ns.map settled).head? :=
        head?_of_looksLike (List.forall₂_map_right_iff.2
          (List.forall₂_same.2 fun n' _ => settled_looksLike n'))
      rw [settledAmong, List.map_cons, outcomes, kept_cons, ih (.some hn), isUsedUp, isUsedUp,
        passed?_of_looksLike hleft hn, between_of_looksLike hleft hright]

theorem refusal_attachTrees {ns : List Node} (h : (attachTrees ns).2.2 = none) :
    ∀ n ∈ ns, (attachTree n).refusal = none := by
  induction ns with
  | nil => exact List.forall_mem_nil _
  | cons n ns ih =>
      cases hn : (attachTree n).refusal with
      | some kindName =>
          rw [attachTrees_cons_of_refused hn] at h
          cases h
      | none =>
          rw [attachTrees_cons_of_accepted hn] at h
          exact List.forall_mem_cons.2 ⟨hn, ih h⟩

/-- A tree in which nothing refuses is settled. -/
theorem attached_eq_settled (h : (attachTree n).refusal = none) : attached n = settled n := by
  induction n using Node.induction with
  | leaf l m => rw [attached_leaf, settled]
  | branch k cs m ih =>
      by_cases hrefused : k.acceptsChildren = false ∧ HoldsWholeBlock cs
      · rw [attachTree_of_refused ((refusal_attach_branch k cs m k.name).2 ⟨rfl, hrefused⟩),
          attach_of_refused hrefused.1 hrefused.2] at h
        cases h
      · obtain ⟨htree, hrefusal⟩ := attachTree_of_accepted hrefused m
        rw [hrefusal] at h
        have hall := refusal_attachTrees h
        have hsettled : cs.map attached = cs.map settled :=
          List.map_congr_left fun c hc => ih c hc (hall c hc)
        rw [attached, htree, (attachTrees_eq hall).1, hsettled, settled, moved,
          moveBlocks_eq_outcomes, settledAmong_eq .none]
        rfl

end TypstPress.ImageAttributes
