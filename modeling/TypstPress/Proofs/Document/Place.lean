import TypstPress.Document.Traverse

/-!
# Places in a tree

A place is a path of child positions. `Node.at?` looks up what stands there, and
`putAt` puts another tree there. The laws are those of reading and writing: what
was put at a place is found at it, and of two trees put at one place the second
stays. A place below another one can be traded for it: putting a child is
putting the parent with that child (`putAt_child`), which is how a rewriting
that goes from place to place is brought down to lists of children.
-/

namespace TypstPress.Node

/-- The tree with another one put at a place. -/
def putAt (n' : Node) (place : List Nat) (tree : Node) : Node :=
  tree.modifyAt (fun _ => n') place

theorem at?_branch (k : Branch) (cs : List Node) (m : Metadata) (i : Nat) (place : List Nat) :
    (Node.branch k cs m).at? (i :: place) = cs[i]?.bind (·.at? place) := by
  rw [at?, children]
  cases cs[i]? with
  | none => rfl
  | some child => rfl

theorem at?_append (tree : Node) (place below : List Nat) :
    tree.at? (place ++ below) = (tree.at? place).bind (·.at? below) := by
  induction place generalizing tree with
  | nil => rfl
  | cons i place ih =>
      cases tree with
      | leaf l m => rfl
      | branch k cs m =>
          rw [List.cons_append, at?_branch, at?_branch]
          cases cs[i]? with
          | none => rfl
          | some child => exact ih child

theorem putAt_branch (n' : Node) (k : Branch) (cs : List Node) (m : Metadata) (i : Nat)
    (place : List Nat) :
    putAt n' (i :: place) (.branch k cs m) = .branch k (cs.modify i (putAt n' place)) m := by
  rw [putAt, modifyAt]
  rfl

theorem at?_putAt {tree n n' : Node} {place : List Nat} (h : tree.at? place = some n) :
    (putAt n' place tree).at? place = some n' := by
  induction place generalizing tree with
  | nil => rfl
  | cons i place ih =>
      cases tree with
      | leaf l m => cases h
      | branch k cs m =>
          rw [at?_branch] at h
          obtain ⟨child, hchild, hn⟩ := Option.bind_eq_some_iff.1 h
          rw [putAt_branch, at?_branch, List.getElem?_modify_eq, hchild]
          exact ih hn

/-- Putting a node where it stands changes nothing. -/
theorem putAt_self {tree n : Node} {place : List Nat} (h : tree.at? place = some n) :
    putAt n place tree = tree := by
  induction place generalizing tree with
  | nil =>
      cases h
      rfl
  | cons i place ih =>
      cases tree with
      | leaf l m => cases h
      | branch k cs m =>
          rw [at?_branch] at h
          obtain ⟨child, hchild, hn⟩ := Option.bind_eq_some_iff.1 h
          rw [putAt_branch]
          refine congrArg (fun cs => Node.branch k cs m) (List.ext_getElem? fun j => ?_)
          rw [List.getElem?_modify]
          by_cases hj : i = j
          · subst hj
            simp only [hchild, if_true, Option.map_eq_map, Option.map_some, ih hn]
          · simp only [if_neg hj, id_map']

theorem putAt_putAt (first second : Node) (place : List Nat) (tree : Node) :
    putAt second place (putAt first place tree) = putAt second place tree := by
  induction place generalizing tree with
  | nil => rfl
  | cons i place ih =>
      cases tree with
      | leaf l m => rfl
      | branch k cs m =>
          rw [putAt_branch, putAt_branch, putAt_branch, List.modify_modify_eq]
          refine congrArg (fun f => Node.branch k (cs.modify i f) m) (funext fun child => ?_)
          exact ih child

/-- Putting a child is putting its parent with that child. -/
theorem putAt_child {tree : Node} {place : List Nat} {k : Branch} {cs : List Node} {m : Metadata}
    (h : tree.at? place = some (.branch k cs m)) (i : Nat) (n' : Node) :
    putAt n' (place ++ [i]) tree = putAt (.branch k (cs.set i n') m) place tree := by
  induction place generalizing tree with
  | nil =>
      cases h
      rw [List.nil_append, putAt_branch]
      refine congrArg (fun cs => Node.branch k cs m) (List.ext_getElem? fun j => ?_)
      rw [List.getElem?_modify, List.getElem?_set]
      by_cases hj : i = j
      · subst hj
        cases hi : cs[i]? with
        | none => simp [List.getElem?_eq_none_iff.1 hi]
        | some child => simp [(List.getElem?_eq_some_iff.1 hi).1, putAt, modifyAt]
      · simp only [if_neg hj, id_map']
  | cons j place ih =>
      cases tree with
      | leaf l m => cases h
      | branch k' cs' m' =>
          rw [at?_branch] at h
          obtain ⟨child, hchild, hn⟩ := Option.bind_eq_some_iff.1 h
          rw [List.cons_append, putAt_branch, putAt_branch]
          refine congrArg (fun cs => Node.branch k' cs m') ?_
          -- both sides change the child that stands there, and in the same way
          refine List.ext_getElem? fun j' => ?_
          rw [List.getElem?_modify, List.getElem?_modify]
          by_cases hj : j = j'
          · subst hj
            rw [hchild]
            simp only [if_true, Option.map_eq_map, Option.map_some, ih hn]
          · simp only [if_neg hj]

end TypstPress.Node
