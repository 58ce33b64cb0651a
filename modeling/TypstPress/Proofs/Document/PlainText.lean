import TypstPress.Proofs.Document.Preorder

/-!
# The text of a tree is one join

`Node.plainText` joins at every level: the parts of one list of children that
have any text, then what these joins give, and so on up to the root. How a text
is nested does not show in the result. A join is empty only when all its parts
are, so a subtree that counts as a part is one in which there is something to
join, and its own join may stand for its parts wherever they are joined further
(`joinParts_append`). By that law the levels fall together: the text of a tree
is the join of the texts found in it, in document order (`plainText_eq`).
-/

namespace TypstPress

/-- The text of a leaf that is one. -/
def Leaf.text? : Leaf → Option String
  | .text content => some content
  | _ => none

namespace Node

/-- What a leaf holds. -/
def leaf? : Node → Option Leaf
  | .leaf l _ => some l
  | .branch .. => none

/-- The content of a node that is a text. -/
def text? (n : Node) : Option String := n.leaf?.bind Leaf.text?

/-! ## Joins -/

variable {joiner : String} {parts : List String}

theorem intercalate_eq_empty_iff (h : ∀ part ∈ parts, part ≠ "") :
    joiner.intercalate parts = "" ↔ parts = [] := by
  cases parts with
  | nil => simp
  | cons part parts =>
      rw [List.forall_mem_cons] at h
      cases parts with
      | nil => simpa using h.1
      | cons next parts => simp [h.1]

/-- A join is empty only when it has no parts that are not. -/
theorem joinParts_eq_empty_iff :
    joinParts joiner parts = "" ↔ parts.filter (!·.isEmpty) = [] := by
  refine intercalate_eq_empty_iff fun part hpart => ?_
  simpa using (List.mem_filter.1 hpart).2

theorem joinParts_singleton (joiner part : String) : joinParts joiner [part] = part := by
  by_cases hpart : part = ""
  · simp [joinParts, hpart]
  · simp [joinParts, hpart]

theorem joinParts_pair {part part' : String} (hpart : part ≠ "") (hpart' : part' ≠ "") :
    joinParts joiner [part, part'] = part ++ joiner ++ part' := by
  simp [joinParts, hpart, hpart']

/-- Of parts that are joined, those on either side may be joined first. -/
theorem joinParts_append (joiner : String) (parts parts' : List String) :
    joinParts joiner (parts ++ parts') =
      joinParts joiner [joinParts joiner parts, joinParts joiner parts'] := by
  by_cases hparts : joinParts joiner parts = ""
  · -- an empty side leaves no trace, neither its parts nor their join
    rw [hparts, joinParts, List.filter_append, joinParts_eq_empty_iff.1 hparts, List.nil_append]
    exact (joinParts_singleton joiner (joinParts joiner parts')).symm
  by_cases hparts' : joinParts joiner parts' = ""
  · rw [hparts', joinParts, List.filter_append, joinParts_eq_empty_iff.1 hparts', List.append_nil]
    exact (joinParts_singleton joiner (joinParts joiner parts)).symm
  rw [joinParts_pair hparts hparts', joinParts, List.filter_append,
    String.intercalate_append_of_ne_nil (mt joinParts_eq_empty_iff.2 hparts)
      (mt joinParts_eq_empty_iff.2 hparts')]
  rfl

/-! ## Texts -/

theorem filterMap_text?_leaf (l : Leaf) (m : Metadata) :
    (Node.leaf l m).preorder.filterMap text? = l.text?.toList := by
  cases l <;> rfl

theorem filterMap_text?_branch (k : Branch) (cs : List Node) (m : Metadata) :
    (Node.branch k cs m).preorder.filterMap text? = (preorderAll cs).filterMap text? := by
  rw [preorder, List.filterMap_cons_none rfl]

theorem plainText_leaf (joiner : String) (l : Leaf) (m : Metadata) :
    (Node.leaf l m).plainText joiner = joinParts joiner l.text?.toList := by
  cases l with
  | text content => exact (joinParts_singleton joiner content).symm
  | _ => rfl

/-- Several trees give one join when each of them does. -/
theorem plainTextOf_eq_of_forall {ns : List Node}
    (h : ∀ n ∈ ns, n.plainText joiner = joinParts joiner (n.preorder.filterMap text?)) :
    plainTextOf joiner ns = joinParts joiner ((preorderAll ns).filterMap text?) := by
  induction ns with
  | nil => rw [plainTextOf, plainTexts, preorderAll, List.filterMap_nil]
  | cons n ns ih =>
      rw [List.forall_mem_cons] at h
      calc plainTextOf joiner (n :: ns)
          = joinParts joiner ([n.plainText joiner] ++ plainTexts joiner ns) := by
            rw [plainTextOf, plainTexts, List.singleton_append]
        _ = joinParts joiner [n.plainText joiner, plainTextOf joiner ns] := by
            rw [joinParts_append, joinParts_singleton, plainTextOf]
        _ = joinParts joiner ((preorderAll (n :: ns)).filterMap text?) := by
            rw [h.1, ih h.2, ← joinParts_append, ← List.filterMap_append, preorderAll]

/-- The text of a tree joins the texts found in it, whatever the joiner is. -/
theorem plainText_eq (joiner : String) (n : Node) :
    n.plainText joiner = joinParts joiner (n.preorder.filterMap text?) := by
  induction n using Node.induction with
  | leaf l m => rw [plainText_leaf, filterMap_text?_leaf]
  | branch k cs m ih =>
      rw [plainText, filterMap_text?_branch]
      exact plainTextOf_eq_of_forall ih

theorem plainTextOf_eq (joiner : String) (ns : List Node) :
    plainTextOf joiner ns = joinParts joiner ((preorderAll ns).filterMap text?) :=
  plainTextOf_eq_of_forall fun n _ => plainText_eq joiner n

/-- The joiner stands once between two texts, also between a text and one that is
further down, and never beside an empty one. -/
example : (ofBranch .paragraph [ofText "a", ofBranch .strong [ofText "", ofText "b"],
    ofBranch .emphasis [ofText ""], ofText "c"]).plainText "-" = "a-b-c" := by
  cbv

end Node

end TypstPress
