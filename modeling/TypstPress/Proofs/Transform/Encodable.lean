import TypstPress.Proofs.Transform.MovedBlocks
import TypstPress.Proofs.Transform.SpanGrowth
import TypstPress.Proofs.Transform.WellFormed
import TypstPress.Proofs.Typst.Encodable

/-!
# Transforms bring in no urls

The program's own transforms remove nodes, add raw source and change texts, the
attributes of images and the spans of cells. A url they neither add nor change,
so a tree all of whose urls have a UTF-8 form is rewritten to such a tree,
whether the rewriting finishes or not (`run_encodable`).

Each of them is followed through its recursion, apart from the merging of cells:
the order in which tables grow says already that nothing else in them changes.
-/

namespace TypstPress

open Node

theorem all_ofTypst_encodable (source : String) :
    (Node.ofTypst source).all Kind.isEncodable = true := by
  rw [ofTypst, ofBranch, all_branch, allOf_cons]
  exact ⟨rfl, all_leaf, allOf_nil⟩

theorem insertPreamble_encodable (source : String) {n : Node}
    (h : n.all Kind.isEncodable = true) : (insertPreamble source n).all Kind.isEncodable = true := by
  cases n with
  | leaf l m => exact h
  | branch k cs m =>
      rw [insertPreamble]
      split
      · exact h
      · rw [all_branch] at h ⊢
        exact ⟨h.1, allOf_cons.2 ⟨all_ofTypst_encodable source, h.2⟩⟩

/-! ## Markup -/

namespace DirectiveMarkup

variable (markup : List (String × String))

mutual

theorem replaceBelow_encodable {n : Node} (h : n.all Kind.isEncodable = true) :
    (replaceBelow markup n).tree.all Kind.isEncodable = true := by
  match n with
  | .leaf l m =>
      rw [replaceBelow]
      exact h
  | .branch k cs m =>
      rw [replaceBelow]
      dsimp only
      split
      · exact h
      · rw [all_branch] at h ⊢
        exact ⟨h.1, replaceAmong_encodable h.2⟩

theorem replaceAmong_encodable {ns : List Node} (h : allOf Kind.isEncodable ns = true) :
    allOf Kind.isEncodable (replaceAmong markup ns).1 = true := by
  match ns with
  | [] =>
      rw [replaceAmong]
      exact allOf_nil
  | n :: ns =>
      rw [allOf_cons] at h
      have hrest := replaceAmong_encodable h.2
      rw [replaceAmong]
      split
      · next source hsource => exact allOf_cons.2 ⟨all_ofTypst_encodable source, hrest⟩
      · have hfirst := replaceBelow_encodable h.1
        dsimp only
        split
        · refine allOf_cons.2 ⟨hfirst, allOf_iff.2 fun n' hn' => ?_⟩
          obtain ⟨n, hn, rfl⟩ := List.mem_map.1 hn'
          cases markupFor? markup n with
          | none => exact allOf_iff.1 h.2 n hn
          | some source => exact all_ofTypst_encodable source
        · exact allOf_cons.2 ⟨hfirst, hrest⟩

end

theorem apply_encodable {document : Node} (h : document.all Kind.isEncodable = true) :
    (apply markup document).tree.all Kind.isEncodable = true := by
  have htree := replaceBelow_encodable markup h
  rw [apply]
  split
  · exact htree
  · exact htree

end DirectiveMarkup

/-! ## Attribute blocks -/

namespace ImageAttributes

theorem withText_encodable (content : String) {n : Node} (h : n.all Kind.isEncodable = true) :
    (withText content n).all Kind.isEncodable = true := by
  unfold withText
  split
  · exact all_leaf
  · exact h

theorem withAttributes_encodable (attributes : Attributes) {n : Node}
    (h : n.all Kind.isEncodable = true) :
    (withAttributes attributes n).all Kind.isEncodable = true := by
  unfold withAttributes
  split
  · rw [all_leaf] at h ⊢
    exact h
  · exact all_leaf
  · exact h

theorem between_encodable (left? right? : Option Node) {n : Node}
    (h : n.all Kind.isEncodable = true) :
    (between left? right? n).all Kind.isEncodable = true := by
  unfold between
  split
  · exact withText_encodable _ h
  · exact withAttributes_encodable _ h
  · exact h

theorem encodable_of_mem_moveBlocks {cs : List Node} (h : allOf Kind.isEncodable cs = true)
    {child : Child} (hchild : child ∈ (moveBlocks cs).1) :
    child.node.all Kind.isEncodable = true := by
  rw [moveBlocks_eq_outcomes] at hchild
  obtain ⟨i, hi⟩ := List.getElem?_of_mem hchild
  rw [outcomes_getElem?] at hi
  obtain ⟨n, hn, rfl⟩ := Option.map_eq_some_iff.1 hi
  exact between_encodable _ _ (allOf_iff.1 h n (List.mem_of_getElem? hn))

theorem attach_encodable {n : Node} (h : n.all Kind.isEncodable = true) :
    (attach n).tree.all Kind.isEncodable = true := by
  cases n with
  | leaf l m => exact h
  | branch k cs m =>
      rw [all_branch] at h
      have hmoved : ∀ {children : List Child}, children ⊆ (moveBlocks cs).1 →
          (Node.branch k (children.map (·.node)) m).all Kind.isEncodable = true := by
        intro children hsubset
        refine all_branch.2 ⟨h.1, allOf_iff.2 fun n hn => ?_⟩
        obtain ⟨child, hchild, rfl⟩ := List.mem_map.1 hn
        exact encodable_of_mem_moveBlocks h.2 (hsubset hchild)
      rw [attach]
      dsimp only
      split
      · split
        · exact hmoved List.filter_sublist.subset
        · exact hmoved (List.Subset.refl _)
      · exact hmoved (List.Subset.refl _)

mutual

theorem attachTree_encodable {n : Node} (h : n.all Kind.isEncodable = true) :
    (attachTree n).tree.all Kind.isEncodable = true := by
  match n with
  | .leaf l m =>
      rw [attachTree]
      exact h
  | .branch k cs m =>
      rw [attachTree]
      dsimp only
      split
      · exact attach_encodable h
      · rw [all_branch] at h
        exact attach_encodable (all_branch.2 ⟨h.1, attachTrees_encodable h.2⟩)

theorem attachTrees_encodable {ns : List Node} (h : allOf Kind.isEncodable ns = true) :
    allOf Kind.isEncodable (attachTrees ns).1 = true := by
  match ns with
  | [] =>
      rw [attachTrees]
      exact allOf_nil
  | n :: ns =>
      rw [allOf_cons] at h
      have hfirst := attachTree_encodable h.1
      rw [attachTrees]
      dsimp only
      split
      · exact allOf_cons.2 ⟨hfirst, h.2⟩
      · exact allOf_cons.2 ⟨hfirst, attachTrees_encodable h.2⟩

end

theorem apply_encodable {document : Node} (h : document.all Kind.isEncodable = true) :
    (apply document).tree.all Kind.isEncodable = true := by
  have htree := attachTree_encodable h
  rw [apply]
  split
  · exact htree
  · exact htree

end ImageAttributes

/-! ## Spans -/

namespace TableSpans

theorem Grown.encodable {n n' : Node} (hgrown : Grown n n') (h : n.all Kind.isEncodable = true) :
    n'.all Kind.isEncodable = true := by
  induction n using Node.induction generalizing n' with
  | leaf l m =>
      cases hgrown
      exact h
  | branch k cs m ih =>
      cases hgrown with
      | branch hkind hchildren =>
          rw [all_branch] at h
          refine all_branch.2 ⟨?_, allOf_iff.2 fun c' hc' => ?_⟩
          · cases hkind <;> rfl
          · obtain ⟨c, hc, hgrown⟩ := exists_mem_of_grown hchildren hc'
            exact ih c hc hgrown (allOf_iff.1 h.2 c hc)

end TableSpans

/-! ## Running a transform -/

/-- The program's own transforms leave a tree whose urls have a UTF-8 form if they
are given such a tree. -/
theorem Transform.run_encodable {t : Transform} (ht : t.isBuiltIn = true) {n : Node}
    (h : n.all Kind.isEncodable = true) : (t.run n).tree.all Kind.isEncodable = true := by
  rw [run]
  split
  · cases t with
    | imageAttributes => exact ImageAttributes.apply_encodable h
    | tableSpans => exact (TableSpans.apply_grown n).encodable h
    | preamble source => exact insertPreamble_encodable source h
    | directives markup => exact DirectiveMarkup.apply_encodable markup h
    | custom name rewrite => cases ht
  · exact h

end TypstPress
